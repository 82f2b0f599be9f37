import TableStore.FileSystem.Error
import TableStore.Net.Address

/-!
# Listening

Where a program may listen on a machine that gives it every address it asks for, but reserves the
ports below 1024.
-/

namespace TableStore.SocketAddress

/-- The least port that is not reserved. -/
def firstFreePort : Nat := 1024

/-- Tries to listen at an address.  Port 0 stands for any free port. -/
def listen (address : SocketAddress) : Except IoError Unit :=
  if 0 < address.port ∧ address.port < firstFreePort then .error .permissionDenied
  else .ok ()

end TableStore.SocketAddress
