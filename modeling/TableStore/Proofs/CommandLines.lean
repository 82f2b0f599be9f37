import Mathlib.Data.List.Basic
import Mathlib.Tactic.Common
import TableStore.CommandLine.Launch

/-!
# Reading command lines

A command line is read from the left: a flag takes the word behind it, and every other word stands
for itself.  The settings come from the file that the first `--config` names, or are the default
ones, and the last value of each other flag replaces what it is about.

There are four groups.

* The grammar.  `Reads` says how words are read as arguments, and `reads_iff` that they are read in
  one way only.
* The arguments.  `apply_eq_ok_iff` sums up what one argument does, and `applyAll_eq_ok_iff` what
  all of them do (`override`).
* The file.  The program looks for the word `--config` at any place.  It finds the first such flag
  unless the word stands as the value of another flag before (`HidesConfig`); then the word has two
  meanings at once, and what follows it is the file (`configFile_of_not_hides`,
  `configFile_of_hides`).
* The program.  `settings_of_arguments` puts this together for launches, and
  `words_can_mean_two_things` is a command line on which the file is not the one of a flag.
-/

namespace TableStore

/-! ## The grammar -/

namespace Flag

theorem ofWord?_eq_some_iff {word : String} {flag : Flag} :
    ofWord? word = some flag ↔ word = flag.word := by
  constructor
  · intro h
    unfold ofWord? at h
    split at h
    all_goals first
      | contradiction
      | obtain rfl := Option.some.inj h
        rfl
  · rintro rfl
    exact ofWord?_word flag

theorem ofWord?_eq_none_iff {word : String} :
    ofWord? word = none ↔ ∀ flag : Flag, word ≠ flag.word := by
  rw [Option.eq_none_iff_forall_ne_some]
  exact forall_congr' fun flag => not_congr ofWord?_eq_some_iff

/-- Whether a text can be the value of a flag. -/
def Accepts : Flag → String → Prop
  | bind, value => (SocketAddress.ofText? value).isSome = true
  | transport, value => (Transport.ofName? value).isSome = true
  | config, _ | dataDir, _ => True

instance (flag : Flag) (value : String) : Decidable (flag.Accepts value) :=
  match flag with
  | bind => inferInstanceAs (Decidable (_ = true))
  | transport => inferInstanceAs (Decidable (_ = true))
  | config => inferInstanceAs (Decidable True)
  | dataDir => inferInstanceAs (Decidable True)

end Flag

namespace Argument

/-- How the words of a command line are read as arguments. -/
inductive Reads : List String → List Argument → Prop
  | done : Reads [] []
  | option {rest args} (flag : Flag) (value : String) (tail : Reads rest args) :
      Reads (flag.word :: value :: rest) (option flag value :: args)
  | bare (flag : Flag) : Reads [flag.word] [bare flag]
  | unknown {word rest args} (other : ∀ flag : Flag, word ≠ flag.word) (tail : Reads rest args) :
      Reads (word :: rest) (unknown word :: args)

/-- The words can be read in one way, which is how they are read. -/
theorem reads_iff {words : List String} {args : List Argument} :
    Reads words args ↔ ofWords words = args := by
  constructor
  · intro h
    induction h with
    | done => rfl
    | option flag value _ ih => simp only [ofWords, Flag.ofWord?_word, ih]
    | bare flag => simp only [ofWords, Flag.ofWord?_word]
    | @unknown word rest args other _ ih =>
      have hnone := Flag.ofWord?_eq_none_iff.2 other
      cases rest with
      | nil => simp only [ofWords, hnone, ← ih]
      | cons value rest => simp only [ofWords, hnone, ih]
  · rintro rfl
    fun_induction ofWords words with
    | case1 => exact .done
    | case2 word flag hflag =>
      obtain rfl := Flag.ofWord?_eq_some_iff.1 hflag
      exact .bare flag
    | case3 word hnone => exact .unknown (Flag.ofWord?_eq_none_iff.1 hnone) .done
    | case4 word value rest flag hflag ih =>
      obtain rfl := Flag.ofWord?_eq_some_iff.1 hflag
      exact .option flag value ih
    | case5 word value rest hnone ih => exact .unknown (Flag.ofWord?_eq_none_iff.1 hnone) ih

/-! ## What arguments do -/

/-- The value that an argument gives to a flag. -/
def valueOf? (flag : Flag) : Argument → Option String
  | option given value => if given = flag then some value else none
  | bare _ | unknown _ => none

/-- The last value that arguments give to a flag. -/
def lastValue? (flag : Flag) (args : List Argument) : Option String :=
  (args.filterMap (valueOf? flag)).getLast?

/-- Whether an argument can be obeyed: its value is one for its flag.  A flag for the file that
stands last is only looked at if it is the first one. -/
def IsObeyed : Argument → Prop
  | option flag value => flag.Accepts value
  | bare flag => flag = .config
  | unknown _ => True

instance (argument : Argument) : Decidable argument.IsObeyed :=
  match argument with
  | option flag value => inferInstanceAs (Decidable (flag.Accepts value))
  | bare flag => inferInstanceAs (Decidable (flag = .config))
  | unknown _ => inferInstanceAs (Decidable True)

/-- What the last value of a flag is read as, or `default` if there is none. -/
def lastOr {α : Type} (flag : Flag) (read : String → Option α) (args : List Argument)
    (default : α) : α :=
  ((lastValue? flag args).bind read).getD default

/-- The settings in which the last value of every flag is in the place of what was there. -/
def override (args : List Argument) (settings : Settings) : Settings :=
  { settings with
    bind := lastOr .bind SocketAddress.ofText? args settings.bind
    dataDir := lastOr .dataDir (some ∘ Path.ofText) args settings.dataDir
    transport := lastOr .transport Transport.ofName? args settings.transport }

theorem lastValue?_cons (flag : Flag) (argument : Argument) (rest : List Argument) :
    lastValue? flag (argument :: rest) =
      (lastValue? flag rest).or (lastValue? flag [argument]) := by
  rw [lastValue?, ← List.singleton_append, List.filterMap_append, List.getLast?_append]
  rfl

theorem accepts_of_lastValue? {flag : Flag} {args : List Argument} {value : String}
    (hobeyed : ∀ argument ∈ args, argument.IsObeyed) (h : lastValue? flag args = some value) :
    flag.Accepts value := by
  obtain ⟨argument, hargument, hvalue⟩ := List.mem_filterMap.1 (List.mem_of_getLast? h)
  have hargs := hobeyed argument hargument
  cases argument with
  | bare _ => simp [valueOf?] at hvalue
  | unknown _ => simp [valueOf?] at hvalue
  | option given text =>
    simp only [valueOf?, Option.ite_none_right_eq_some, Option.some.injEq] at hvalue
    obtain ⟨rfl, rfl⟩ := hvalue
    exact hargs

/-- Values that can be read replace those before them. -/
theorem lastOr_cons {α : Type} (flag : Flag) (read : String → Option α) {rest : List Argument}
    (hread : ∀ value, lastValue? flag rest = some value → (read value).isSome = true)
    (argument : Argument) (default : α) :
    lastOr flag read (argument :: rest) default =
      lastOr flag read rest (lastOr flag read [argument] default) := by
  unfold lastOr
  rw [lastValue?_cons]
  cases hlast : lastValue? flag rest with
  | none => rfl
  | some value =>
    obtain ⟨result, hresult⟩ := Option.isSome_iff_exists.1 (hread value hlast)
    simp [hresult]

theorem override_cons {rest : List Argument} (hobeyed : ∀ argument ∈ rest, argument.IsObeyed)
    (argument : Argument) (settings : Settings) :
    override (argument :: rest) settings = override rest (override [argument] settings) := by
  have hbind := lastOr_cons .bind SocketAddress.ofText?
    (fun _ h => accepts_of_lastValue? hobeyed h) argument settings.bind
  have hdataDir : lastOr .dataDir (some ∘ Path.ofText) (argument :: rest) settings.dataDir = _ :=
    lastOr_cons .dataDir (some ∘ Path.ofText) (fun _ _ => rfl) argument settings.dataDir
  have htransport := lastOr_cons .transport Transport.ofName?
    (fun _ h => accepts_of_lastValue? hobeyed h) argument settings.transport
  simp only [override, hbind, hdataDir, htransport]

/-- An argument that can be obeyed replaces what its value is for, and no other argument is
accepted. -/
theorem apply_eq_ok_iff {argument : Argument} {settings next : Settings} :
    argument.apply settings = .ok next ↔
      argument.IsObeyed ∧ next = override [argument] settings := by
  cases argument with
  | unknown word =>
    have hsame : override [unknown word] settings = settings := rfl
    simp [apply, IsObeyed, hsame, eq_comm]
  | bare flag =>
    have hsame : override [bare flag] settings = settings := rfl
    cases flag <;> simp [apply, IsObeyed, hsame, eq_comm]
  | option flag value =>
    cases flag with
    | config =>
      have hsame : override [option .config value] settings = settings := rfl
      simp [apply, IsObeyed, Flag.Accepts, hsame, eq_comm]
    | dataDir =>
      simp [apply, IsObeyed, Flag.Accepts, override, lastOr, lastValue?, valueOf?, eq_comm]
    | bind =>
      cases hread : SocketAddress.ofText? value <;>
        simp [apply, IsObeyed, Flag.Accepts, override, lastOr, lastValue?, valueOf?, hread, eq_comm]
    | transport =>
      cases hread : Transport.ofName? value <;>
        simp [apply, IsObeyed, Flag.Accepts, override, lastOr, lastValue?, valueOf?, hread, eq_comm]

/-- Arguments that can all be obeyed replace what their last values are for. -/
theorem applyAll_eq_ok_iff {args : List Argument} {settings next : Settings} :
    (applyAll settings args).2 = .ok next ↔
      (∀ argument ∈ args, argument.IsObeyed) ∧ next = override args settings := by
  induction args generalizing settings with
  | nil => simp [applyAll, override, lastOr, lastValue?, eq_comm]
  | cons argument rest ih =>
    rw [List.forall_mem_cons]
    cases happly : argument.apply settings with
    | error fault =>
      have hrefused : ¬ argument.IsObeyed := by
        intro hobeyed
        have hok : argument.apply settings = .ok (override [argument] settings) :=
          apply_eq_ok_iff.2 ⟨hobeyed, rfl⟩
        rw [happly] at hok
        contradiction
      simp [applyAll, happly, hrefused]
    | ok after =>
      obtain ⟨hobeyed, rfl⟩ := apply_eq_ok_iff.1 happly
      simp only [applyAll, happly, ih, hobeyed, true_and]
      refine and_congr_right fun hrest => ?_
      rw [override_cons hrest]

/-! ## The file of settings -/

/-- Whether an argument is a flag for the file. -/
def isConfig : Argument → Bool
  | option flag _ | bare flag => flag = .config
  | unknown _ => false

/-- The first word of an argument. -/
def word : Argument → String
  | option flag _ | bare flag => flag.word
  | unknown word => word

/-- The words of an argument. -/
def words : Argument → List String
  | option flag value => [flag.word, value]
  | bare flag => [flag.word]
  | unknown word => [word]

/-- Whether the word for the flag is the value of another flag, and no flag for the file stands
before it. -/
def HidesConfig (args : List Argument) : Prop :=
  ∃ front flag rest, args = front ++ option flag Flag.config.word :: rest ∧ flag ≠ .config ∧
    ∀ argument ∈ front, argument.isConfig = false

/-- The file that the first flag for a file names, if there is such a flag. -/
def fileOf : Option Argument → Except Fault (Option String)
  | none => .ok none
  | some (option _ path) => .ok (some path)
  | some _ => .error (.missingValue .config)

theorem fileOf_eq_none_iff {args : List Argument} :
    fileOf (args.find? isConfig) = .ok none ↔ args.find? isConfig = none := by
  constructor
  · intro h
    unfold fileOf at h
    split at h
    · assumption
    · simp at h
    · contradiction
  · intro h
    rw [h, fileOf]

theorem fileOf_eq_some_iff {args : List Argument} {path : String} :
    fileOf (args.find? isConfig) = .ok (some path) ↔
      args.find? isConfig = some (option .config path) := by
  constructor
  · intro h
    unfold fileOf at h
    split at h
    · simp at h
    · next flag file hfind =>
      have hflag : flag = .config := by simpa [isConfig] using List.find?_some hfind
      have hpath : file = path := by simpa using h
      rw [hfind, hflag, hpath]
    · contradiction
  · intro h
    rw [h, fileOf]

theorem configFile_cons_of_ne {word : String} (h : word ≠ Flag.config.word) (rest : List String) :
    configFile (word :: rest) = configFile rest := by
  rw [configFile.eq_def]
  exact if_neg h

theorem word_ne_config {flag : Flag} (h : flag ≠ .config) : flag.word ≠ Flag.config.word := by
  intro heq
  have hword := Flag.ofWord?_word flag
  rw [heq, Flag.ofWord?_word] at hword
  exact h (Option.some.inj hword).symm

theorem HidesConfig.cons {argument : Argument} {args : List Argument} (h : HidesConfig args)
    (hargument : argument.isConfig = false) : HidesConfig (argument :: args) := by
  obtain ⟨front, flag, rest, rfl, hflag, hfront⟩ := h
  exact ⟨argument :: front, flag, rest, rfl, hflag, List.forall_mem_cons.2 ⟨hargument, hfront⟩⟩

/-- If the word is not hidden, the file is the one of the first flag. -/
theorem configFile_of_not_hides {words : List String} {args : List Argument}
    (hreads : Reads words args) (hplain : ¬ HidesConfig args) :
    configFile words = fileOf (args.find? isConfig) := by
  induction hreads with
  | done => rfl
  | bare flag =>
    by_cases hflag : flag = .config
    · subst hflag
      rfl
    · rw [configFile_cons_of_ne (word_ne_config hflag)]
      simp [configFile, isConfig, hflag, fileOf]
  | unknown hother _ ih =>
    rw [configFile_cons_of_ne (hother .config), List.find?_cons_of_neg (by simp [isConfig])]
    exact ih fun h => hplain (h.cons rfl)
  | option flag value _ ih =>
    -- the search looks at both words, so neither may be the one for the file
    by_cases hflag : flag = .config
    · subst hflag
      rfl
    · have hvalue : value ≠ Flag.config.word := by
        rintro rfl
        exact hplain ⟨[], flag, _, rfl, hflag, by simp⟩
      have hconfig : (option flag value).isConfig = false := by simpa [isConfig] using hflag
      rw [configFile_cons_of_ne (word_ne_config hflag), configFile_cons_of_ne hvalue,
        List.find?_cons_of_neg (by simp [hconfig])]
      exact ih fun h => hplain (h.cons hconfig)

theorem Reads.head? {words : List String} {args : List Argument} (h : Reads words args) :
    words.head? = args.head?.map word := by
  cases h <;> rfl

/-- If the word is hidden, the file is the first word behind the flag that hides it, although that
word belongs to another argument. -/
theorem configFile_of_hides {words : List String} {front rest : List Argument} {flag : Flag}
    (hreads : Reads words (front ++ option flag Flag.config.word :: rest)) (hflag : flag ≠ .config)
    (hfront : ∀ argument ∈ front, Flag.config.word ∉ argument.words) :
    configFile words =
      match rest.head? with
      | none => .error (.missingValue .config)
      | some argument => .ok (some argument.word) := by
  induction front generalizing words with
  | nil =>
    cases hreads with
    | @option tailWords _ _ _ tail =>
      rw [configFile_cons_of_ne (word_ne_config hflag)]
      have hhead := tail.head?
      cases tailWords <;> cases rest <;> simp_all [configFile]
  | cons argument front ih =>
    obtain ⟨hargument, hothers⟩ := List.forall_mem_cons.1 hfront
    rw [List.cons_append] at hreads
    generalize htail : front ++ option flag Flag.config.word :: rest = tail at hreads
    cases hreads with
    | bare given => simp at htail
    | unknown hother hreads =>
      rw [configFile_cons_of_ne (hother .config)]
      exact ih (htail ▸ hreads) hothers
    | option given value hreads =>
      obtain ⟨hgiven, hvalue⟩ : Flag.config.word ≠ given.word ∧ Flag.config.word ≠ value := by
        simpa [Argument.words] using hargument
      rw [configFile_cons_of_ne hgiven.symm, configFile_cons_of_ne hvalue.symm]
      exact ih (htail ▸ hreads) hothers

/-! ## The settings -/

/-- What arguments are applied to: the settings in the file of the first flag for a file, or the
default settings if there is no such flag. -/
def StartsFrom (files : FileSystem) (args : List Argument) (base : Settings) : Prop :=
  args.find? isConfig = none ∧ base = {} ∨
    ∃ path, args.find? isConfig = some (option .config path) ∧
      Settings.load files (Path.ofText path) = .ok base

theorem baseSettings_eq_ok_iff {files : FileSystem} {words : List String} {args : List Argument}
    (hfile : configFile words = fileOf (args.find? isConfig)) {base : Settings} :
    baseSettings files words = .ok base ↔ StartsFrom files args base := by
  unfold baseSettings StartsFrom
  simp only [← fileOf_eq_none_iff, ← fileOf_eq_some_iff, hfile]
  cases fileOf (args.find? isConfig) with
  | error fault => simp
  | ok file =>
    cases file with
    | none => simp [eq_comm]
    | some path => cases hload : Settings.load files (Path.ofText path) <;> simp [hload]

/-- Settings are made if there are some to start from, and all arguments can be obeyed. -/
theorem settings_eq_ok_iff {files : FileSystem} {words : List String} {args : List Argument}
    (hreads : Reads words args) (hplain : ¬ HidesConfig args) {next : Settings} :
    (settings files words).2 = .ok next ↔
      ∃ base, StartsFrom files args base ∧ (∀ argument ∈ args, argument.IsObeyed) ∧
        next = override args base := by
  have hbase (base : Settings) : baseSettings files words = .ok base ↔ StartsFrom files args base :=
    baseSettings_eq_ok_iff (configFile_of_not_hides hreads hplain)
  simp only [← hbase, ← applyAll_eq_ok_iff, settings, reads_iff.1 hreads]
  cases baseSettings files words <;> simp

end Argument

namespace Launch

/-- Whether a launch goes on with the given settings. -/
def StartsWith (launch : Launch) (settings : Settings) : Prop :=
  .configured settings ∈ launch.reports

theorem startsWith_ofSettings {settings next : Settings} :
    (ofSettings settings).StartsWith next ↔ next = settings := by
  have hnodes : ∀ reports, bindNodes settings = .ok reports → .configured next ∉ reports := by
    intro reports h
    unfold bindNodes at h
    split at h
    · obtain rfl := Except.ok.inj h
      simp
    · split at h
      · contradiction
      · obtain rfl := Except.ok.inj h
        simp
  unfold StartsWith ofSettings
  cases hbind : bindNodes settings with
  | error cause => simp
  | ok reports => simp [hnodes reports hbind]

/-- A launch goes on with the settings that the words make. -/
theorem startsWith_ofWords {files : FileSystem} {words : List String}
    (hhelp : words.any asksForHelp = false) {next : Settings} :
    (ofWords files words).StartsWith next ↔ (Argument.settings files words).2 = .ok next := by
  unfold ofWords
  rw [hhelp, if_neg Bool.false_ne_true]
  cases houtcome : (Argument.settings files words).2 with
  | error fault => simp [houtcome, StartsWith]
  | ok settings =>
    have hlaunch : (ofSettings settings).StartsWith next ↔ next = settings := startsWith_ofSettings
    simp only [StartsWith] at hlaunch
    simp [houtcome, StartsWith, hlaunch, eq_comm]

end Launch

open Argument (Reads HidesConfig StartsFrom override)

/-- **Every word of a command line has one meaning**, if the word for the flag is not hidden: the
file is the one of the first flag for a file, and the last value of every other flag takes the place
of what is in the file, wherever the flags stand.  A hidden word has two meanings. -/
theorem Launch.settings_of_arguments (files : FileSystem) {words : List String}
    {args : List Argument} (hreads : Reads words args)
    (hhelp : words.any asksForHelp = false) :
    (¬ HidesConfig args →
      (∀ path, Argument.configFile words = .ok (some path) ↔
        args.find? Argument.isConfig = some (.option .config path)) ∧
      ∀ next, (ofWords files words).StartsWith next ↔
        ∃ base, StartsFrom files args base ∧ (∀ argument ∈ args, argument.IsObeyed) ∧
          next = override args base) ∧
    ∀ front flag rest, args = front ++ .option flag Flag.config.word :: rest → flag ≠ .config →
      (∀ argument ∈ front, Flag.config.word ∉ argument.words) →
      Argument.configFile words =
        match rest.head? with
        | none => .error (.missingValue .config)
        | some argument => .ok (some argument.word) := by
  constructor
  · intro hplain
    refine ⟨fun path => ?_, fun next => ?_⟩
    · rw [Argument.configFile_of_not_hides hreads hplain, Argument.fileOf_eq_some_iff]
    · rw [startsWith_ofWords hhelp, Argument.settings_eq_ok_iff hreads hplain]
  · rintro front flag rest rfl hflag hfront
    exact Argument.configFile_of_hides hreads hflag hfront

namespace Launch

/-- A working directory with a configuration file. -/
def workshop : FileSystem :=
  (FileSystem.empty.writeBytes ["slow.toml"] "heartbeat_interval_ms = 77".toUTF8).2

/-- The words of a launch whose flags stand on both sides of the file. -/
def steadyWords : List String :=
  ["--bind", "192.0.2.9:81", "--config", "slow.toml", "--bind", "192.0.2.1:81"]

/-- The words of a launch in which a directory has the name of a flag. -/
def hiddenWords : List String := ["--data-dir", "--config", "slow.toml", "--bind", "192.0.2.1:81"]

theorem reads_steadyWords : Reads steadyWords
    [.option .bind "192.0.2.9:81", .option .config "slow.toml", .option .bind "192.0.2.1:81"] :=
  .option .bind _ (.option .config _ (.option .bind _ .done))

theorem reads_hiddenWords : Reads hiddenWords
    [.option .dataDir "--config", .unknown "slow.toml", .option .bind "192.0.2.1:81"] :=
  .option .dataDir _ (.unknown (by intro flag; cases flag <;> decide) (.option .bind _ .done))

theorem startsFrom_workshop : StartsFrom workshop
    [.option .bind "192.0.2.9:81", .option .config "slow.toml", .option .bind "192.0.2.1:81"]
    { heartbeatInterval := 77 } :=
  Or.inr ⟨"slow.toml", by decide, by decide⟩

/-- The last address counts, although the file is loaded first; a hidden word names a file. -/
theorem settings_of_arguments_workshop :
    (ofWords workshop steadyWords).StartsWith
        { heartbeatInterval := 77, bind := .v4 [192, 0, 2, 1] 81 } ∧
      Argument.configFile hiddenWords = .ok (some "slow.toml") := by
  constructor
  · have hplain : ¬ HidesConfig [.option .bind "192.0.2.9:81", .option .config "slow.toml",
        .option .bind "192.0.2.1:81"] := by
      rintro ⟨front, flag, rest, heq, -, -⟩
      have hmem : Argument.option flag Flag.config.word ∈
          front ++ .option flag Flag.config.word :: rest := by simp
      rw [← heq] at hmem
      simp [Flag.word] at hmem
    have hstarts := ((settings_of_arguments workshop reads_steadyWords (by decide)).1 hplain).2
    exact (hstarts _).2 ⟨_, startsFrom_workshop, by decide, by decide⟩
  · exact (settings_of_arguments workshop reads_hiddenWords (by decide)).2 [] .dataDir _ rfl
      (by decide) (by simp)

/-- **A word can have two meanings**: a directory with the name of a flag makes the program load the
file whose name comes next, which it passes over as a word without meaning. -/
theorem words_can_mean_two_things :
    ¬ ∀ (files : FileSystem) (words : List String) (args : List Argument), Reads words args →
      words.any asksForHelp = false →
      (∀ path, Argument.configFile words = .ok (some path) ↔
        args.find? Argument.isConfig = some (.option .config path)) ∧
      ∀ next, (ofWords files words).StartsWith next ↔
        ∃ base, StartsFrom files args base ∧ (∀ argument ∈ args, argument.IsObeyed) ∧
          next = override args base := by
  intro h
  have hstarts := (h workshop hiddenWords _ reads_hiddenWords (by decide)).2
    { dataDir := ["--config"], bind := .v4 [192, 0, 2, 1] 81 }
  have hstarted := hstarts.2 ⟨{}, Or.inl ⟨by decide, rfl⟩, by decide, by decide⟩
  revert hstarted
  unfold StartsWith
  decide

end Launch

end TableStore
