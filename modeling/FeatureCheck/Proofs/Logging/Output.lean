import FeatureCheck.Logging.Logger
import FeatureCheck.Proofs.Logging.Directives
import Mathlib.Logic.ExistsUnique

/-!
# What a logger writes

A logger that was started can append to its file, and each event that passes the filter adds one
line to the console and one to the file (`Logger.writes_emit`). So a run writes the events that pass,
in their order (`Logger.writes_run`). With directives in the settings these are the events that
a directive covers and wants; the threshold of the settings counts only if there are no directives
(`LoggerSettings.run_of_directives`).
-/

namespace FeatureCheck

set_option autoImplicit false

namespace FileTree

variable {tree : FileTree} {place other : Place} {content : List UInt8} {node : FileNode}

theorem place_of_file (h : tree.node? place = some (.file content)) :
    place ≠ [] ∧ ∃ entry ∈ tree.nodes, entry.1 = place := by
  unfold node? at h
  cases place with
  | nil =>
    rw [List.isEmpty_nil, if_pos rfl] at h
    cases h
  | cons name place =>
    refine ⟨List.cons_ne_nil name place, ?_⟩
    rw [List.isEmpty_cons, if_neg (by decide)] at h
    split at h
    · rename_i entry hentry
      refine ⟨entry, List.mem_reverse.mp (List.mem_of_find?_eq_some hentry), ?_⟩
      simpa using List.find?_some hentry
    · split at h <;> cases h

theorem node?_add_self (h : place ≠ []) : (tree.add place node).node? place = some node := by
  simp [node?, add, h]

/-- Where a file is replaced, nothing changes elsewhere. -/
theorem node?_add_of_ne (hne : other ≠ place) (h : tree.node? place = some (.file content)) :
    (tree.add place node).node? other = tree.node? other := by
  obtain ⟨-, entry, hentry, hplace⟩ := place_of_file h
  have habove : (other.isPrefixOf place || tree.nodes.any fun entry => other.isPrefixOf entry.1) =
      tree.nodes.any fun entry => other.isPrefixOf entry.1 := by
    cases hprefix : other.isPrefixOf place with
    | false => rfl
    | true =>
      rw [Bool.true_or, eq_comm, List.any_eq_true]
      exact ⟨entry, hentry, by rw [hplace, hprefix]⟩
  simp only [node?, add, List.reverse_append, List.reverse_singleton, List.singleton_append,
    List.any_append, List.any_cons, List.any_nil, Bool.or_false]
  rw [List.find?_cons_of_neg (by simpa using hne.symm), Bool.or_comm, habove]

/-- A file stands at the place, and its name is one that files can have. -/
structure Takes (tree : FileTree) (place : Place) : Prop where
  names : ¬ (place.any fun name => longestName < name.utf8ByteSize) = true
  file : ∃ content, tree.node? place = some (.file content)

theorem Takes.append (h : tree.Takes place) (bytes : List UInt8) : ∃ content,
    tree.node? place = some (.file content) ∧
      tree.append place bytes = .ok (tree.add place (.file (content ++ bytes))) := by
  obtain ⟨content, hcontent⟩ := h.file
  refine ⟨content, hcontent, ?_⟩
  rw [FileTree.append, if_neg h.names, hcontent]

theorem takes_of_append {made : FileTree} {bytes : List UInt8}
    (h : tree.append place bytes = .ok made) : made.Takes place := by
  unfold FileTree.append at h
  split at h
  · cases h
  · rename_i hnames
    split at h
    · cases h
    · rename_i start hstart
      obtain rfl := Except.ok.inj h
      exact ⟨hnames, _, node?_add_self (place_of_file hstart).1⟩
    · rename_i hnone
      obtain rfl := Except.ok.inj h
      have hplace : place ≠ [] := by
        rintro rfl
        simp [node?] at hnone
      exact ⟨hnames, _, node?_add_self hplace⟩

end FileTree

namespace Logger

variable {logger : Logger} {event : LogEvent} {events more : List LogEvent}
  {output middle final : LogOutput}

/-- The logger's file is there. -/
def Ready (logger : Logger) (output : LogOutput) : Prop :=
  ∀ place, logger.file = some place → output.files.Takes place

/-- One line for each of the events is added to the console, if it is used, and one to the file, if
there is one. All other files are as before. -/
structure Writes (logger : Logger) (events : List LogEvent) (before after : LogOutput) : Prop where
  console : after.console = before.console ++
    if logger.hasConsole then events.map (·.line logger.asJson false) else []
  file : ∀ place, logger.file = some place → ∃ content,
    before.files.node? place = some (.file content) ∧
      after.files.node? place = some (.file (content ++ events.flatMap fun event =>
        Text.bytesOf (event.line logger.asJson true ++ "\n")))
  others : ∀ place, logger.file ≠ some place → after.files.node? place = before.files.node? place

theorem writes_nil (h : logger.Ready output) : logger.Writes [] output output where
  console := by simp
  file := by
    intro place hplace
    obtain ⟨content, hcontent⟩ := (h place hplace).file
    exact ⟨content, hcontent, by simpa using hcontent⟩
  others := fun _ _ => rfl

theorem Writes.append (hfirst : logger.Writes events output middle)
    (hsecond : logger.Writes more middle final) : logger.Writes (events ++ more) output final where
  console := by
    rw [hsecond.console, hfirst.console]
    split <;> simp
  file := by
    intro place hplace
    obtain ⟨content, hbefore, hmiddle⟩ := hfirst.file place hplace
    obtain ⟨longer, hlonger, hafter⟩ := hsecond.file place hplace
    rw [hmiddle, Option.some.injEq, FileNode.file.injEq] at hlonger
    refine ⟨content, hbefore, ?_⟩
    rw [hafter, ← hlonger, List.append_assoc, ← List.flatMap_append]
  others := by
    intro place hplace
    rw [hsecond.others place hplace, hfirst.others place hplace]

theorem Writes.ready (h : logger.Writes events output middle) (hready : logger.Ready output) :
    logger.Ready middle := by
  intro place hplace
  obtain ⟨content, -, hafter⟩ := h.file place hplace
  exact ⟨(hready place hplace).names, _, hafter⟩

theorem writes_write (h : logger.Ready output) :
    logger.Writes [event] output (logger.write event output) := by
  cases hfile : logger.file with
  | none =>
    constructor
    · cases hconsole : logger.hasConsole <;> simp [write, hfile, hconsole, LogOutput.print]
    · intro place hplace
      rw [hfile] at hplace
      cases hplace
    · intro place _
      cases hconsole : logger.hasConsole <;> simp [write, hfile, hconsole, LogOutput.print]
  | some own =>
    obtain ⟨content, hcontent, happend⟩ :=
      (h own hfile).append (Text.bytesOf (event.line logger.asJson true ++ "\n"))
    have hfiles : (logger.write event output).files = output.files.add own
        (.file (content ++ Text.bytesOf (event.line logger.asJson true ++ "\n"))) := by
      cases hconsole : logger.hasConsole <;>
        simp [write, hfile, hconsole, LogOutput.print, happend, Except.toOption]
    constructor
    · cases hconsole : logger.hasConsole <;> simp [write, hfile, hconsole, LogOutput.print]
    · intro place hplace
      obtain rfl : own = place := Option.some.inj (hfile.symm.trans hplace)
      refine ⟨content, hcontent, ?_⟩
      rw [hfiles, FileTree.node?_add_self (FileTree.place_of_file hcontent).1]
      simp
    · intro place hplace
      have hne : place ≠ own := by
        rintro rfl
        exact hplace hfile
      rw [hfiles, FileTree.node?_add_of_ne hne hcontent]

/-! ## Runs -/

def passes (logger : Logger) (event : LogEvent) : Bool :=
  logger.filter.allows event.target event.level

/-- The events of a run and, with a file, the one that tells of its end. -/
def emitted (logger : Logger) (events : List LogEvent) (time : String) : List LogEvent :=
  events ++ if logger.writesFiles then [lastEvent time] else []

theorem writes_emit (h : logger.Ready output) :
    logger.Writes ([event].filter logger.passes) output (logger.emit event output) := by
  cases hpasses : logger.passes event with
  | true =>
    have hwrites : logger.Writes [event] output (logger.write event output) := writes_write h
    rw [passes] at hpasses
    simpa [emit, passes, hpasses] using hwrites
  | false =>
    have hnil : logger.Writes [] output output := writes_nil h
    rw [passes] at hpasses
    simpa [emit, passes, hpasses] using hnil

theorem writes_foldl (h : logger.Ready output) : logger.Writes (events.filter logger.passes) output
    (events.foldl (fun output event => logger.emit event output) output) := by
  induction events generalizing output with
  | nil => exact writes_nil h
  | cons event events ih =>
    have hfirst : logger.Writes ([event].filter logger.passes) output (logger.emit event output) :=
      writes_emit h
    have hrest := ih (hfirst.ready h)
    have hboth := hfirst.append hrest
    rwa [← List.filter_append, List.singleton_append] at hboth

theorem writes_run (h : logger.Ready output) (events : List LogEvent) (time : String) :
    logger.Writes ((logger.emitted events time).filter logger.passes) output
      (logger.run events time output) := by
  have hevents : logger.Writes (events.filter logger.passes) output
      (events.foldl (fun output event => logger.emit event output) output) := writes_foldl h
  cases hwrites : logger.writesFiles with
  | true =>
    have hlast : logger.Writes ([lastEvent time].filter logger.passes) _ _ :=
      writes_emit (hevents.ready h)
    have hboth := hevents.append hlast
    rw [← List.filter_append] at hboth
    rw [emitted, run, stop, hwrites, if_pos rfl, if_pos rfl]
    exact hboth
  | false =>
    rw [emitted, run, stop, hwrites, if_neg (by decide), if_neg (by decide), List.append_nil]
    exact hevents

end Logger

namespace LoggerSettings

variable {settings : LoggerSettings} {inherited : Option String} {isRunning : Bool}
  {output started : LogOutput} {logger : Logger}

section Results

variable {ε ε' α β : Type}

theorem bind_eq_ok_iff {result : Except ε α} {next : α → Except ε β} {value : β} :
    result >>= next = .ok value ↔ ∃ first, result = .ok first ∧ next first = .ok value := by
  cases result <;> simp [bind, Except.bind]

theorem mapError_eq_ok_iff {result : Except ε α} {f : ε → ε'} {value : α} :
    result.mapError f = .ok value ↔ result = .ok value := by
  cases result <;> simp [Except.mapError]

end Results

theorem takes_of_openFile {files made : FileTree} {directory : String} {place : Place}
    (h : settings.openFile files directory = .ok (made, place)) : made.Takes place := by
  simp only [openFile, bind_eq_ok_iff, mapError_eq_ok_iff] at h
  obtain ⟨_, -, _, -, _, -, _, -, _, -, opened, happend, heq⟩ := h
  obtain ⟨rfl, rfl⟩ := Prod.mk.inj (Except.ok.inj heq)
  exact FileTree.takes_of_append happend

/-- A logger that was started has the outputs that the settings ask for, and its file is there. -/
structure Starts (settings : LoggerSettings) (logger : Logger) (started : LogOutput) : Prop where
  hasConsole : logger.hasConsole = settings.hasConsole
  asJson : logger.asJson = settings.asJson
  writesFiles : logger.writesFiles = settings.directory.isSome
  ready : logger.Ready started

theorem starts_of_start (h : settings.start inherited isRunning output = (.ok logger, started)) :
    settings.Starts logger started := by
  unfold start at h
  split at h
  · cases h
  · cases h
  · dsimp only at h
    split at h
    · rename_i directory hdirectory
      split at h
      · rename_i files place hopen
        cases isRunning with
        | true => cases h
        | false =>
          rw [if_neg (by decide)] at h
          obtain ⟨hlogger, rfl⟩ := Prod.mk.inj h
          obtain rfl := Except.ok.inj hlogger
          refine ⟨rfl, rfl, by rw [hdirectory]; rfl, ?_⟩
          intro own hown
          obtain rfl := Option.some.inj hown
          exact takes_of_openFile hopen
      · cases h
    · rename_i hdirectory
      split at h
      · cases isRunning with
        | true => cases h
        | false =>
          rw [if_neg (by decide)] at h
          obtain ⟨hlogger, rfl⟩ := Prod.mk.inj h
          obtain rfl := Except.ok.inj hlogger
          exact ⟨rfl, rfl, by rw [hdirectory]; rfl, nofun⟩
      · cases h

def withoutFilter (settings : LoggerSettings) : LoggerSettings :=
  { settings with filter := none }

/-- Directives in the settings change the filter of the logger, and nothing else. -/
theorem start_of_parse {text : String} {directives : Filter} (hfilter : settings.filter = some text)
    (hparse : Filter.parse text = .ok directives) :
    settings.start inherited isRunning output =
      ((settings.withoutFilter.start none isRunning output).1.map fun logger =>
          { logger with filter := directives.orDefault settings.threshold },
        (settings.withoutFilter.start none isRunning output).2) := by
  have hmade : settings.makeFilter inherited =
      .ok (directives.orDefault settings.threshold, []) := by
    rw [makeFilter, hfilter]
    dsimp only
    rw [hparse]
  have hplain : settings.withoutFilter.makeFilter none =
      .ok (Filter.orDefault [] settings.threshold, []) := rfl
  unfold start
  rw [hmade, hplain]
  have hcheck : settings.withoutFilter.check = settings.check := rfl
  rw [hcheck]
  cases settings.check with
  | error problem => rfl
  | ok _ =>
    cases hdirectory : settings.directory with
    | none =>
      have hnone : settings.withoutFilter.directory = none := hdirectory
      rw [hnone]
      cases hconsole : settings.hasConsole <;> cases isRunning <;>
        simp [withoutFilter, hconsole, Except.map]
    | some directory =>
      have hsome : settings.withoutFilter.directory = some directory := hdirectory
      have hopen : ∀ files, settings.withoutFilter.openFile files directory =
          settings.openFile files directory := fun _ => rfl
      rw [hsome]
      simp only [List.foldl_nil, hopen]
      split
      · cases isRunning <;> simp [withoutFilter, Except.map]
      · rfl

theorem filter_of_start {text : String} {directives : Filter} (hfilter : settings.filter = some text)
    (hparse : Filter.parse text = .ok directives)
    (h : settings.start inherited isRunning output = (.ok logger, started)) :
    logger.filter = directives.orDefault settings.threshold := by
  rw [start_of_parse hfilter hparse] at h
  have hlogger := congrArg Prod.fst h
  cases hplain : (settings.withoutFilter.start none isRunning output).1 with
  | error problem =>
    rw [hplain] at hlogger
    cases hlogger
  | ok plain =>
    rw [hplain] at hlogger
    rw [← Except.ok.inj hlogger]

/-- Whatever directives the settings give: they start the logger, or refuse to, as they do without
them. A logger that was started writes just the events that pass, in their order, to each of its
outputs. An event passes if the directives want it, and they cover its target or there are none. So
what is wanted is written just when they cover the target of each event that the threshold of the
settings lets through, or there are none. -/
theorem run_of_directives (settings : LoggerSettings) (text : String) (directives : Filter)
    (inherited : Option String) (isRunning : Bool) (output : LogOutput)
    (htext : settings.filter = some text) (hspells : Filter.Spells text directives) :
    settings.start inherited isRunning output =
        ((settings.withoutFilter.start none isRunning output).1.map fun logger =>
            { logger with filter := directives.orDefault settings.threshold },
          (settings.withoutFilter.start none isRunning output).2) ∧
      (∀ target, directives.Covers target → ∃! directive, directives.Governs target directive) ∧
      ∀ logger started, settings.start inherited isRunning output = (.ok logger, started) →
        settings.Starts logger started ∧
        (∀ event, logger.passes event = true ↔
          directives.Wants settings.threshold event.target event.level ∧
            (directives = [] ∨ directives.Covers event.target)) ∧
        ∀ events time,
          logger.Writes ((logger.emitted events time).filter logger.passes) started
            (logger.run events time started) ∧
          ((∀ event ∈ logger.emitted events time, logger.passes event = true ↔
              directives.Wants settings.threshold event.target event.level) ↔
            directives = [] ∨ ∀ event ∈ logger.emitted events time,
              settings.threshold.allows event.level = true → directives.Covers event.target) := by
  have hplain : directives.IsPlain := hspells.isPlain
  have hparse : Filter.parse text = .ok directives := Filter.parse_of_spells hspells
  refine ⟨start_of_parse htext hparse, ?_, ?_⟩
  · intro target hcovers
    obtain ⟨directive, hgoverns⟩ := (Filter.exists_governs_iff hplain).mpr hcovers
    exact ⟨directive, hgoverns, fun other hother => hother.unique hgoverns⟩
  · intro logger started hstarted
    have hpasses : ∀ event, logger.passes event = true ↔
        directives.Wants settings.threshold event.target event.level ∧
          (directives = [] ∨ directives.Covers event.target) := by
      intro event
      rw [Logger.passes, filter_of_start htext hparse hstarted, Filter.allows_orDefault_iff hplain]
    have hstarts : settings.Starts logger started := starts_of_start hstarted
    refine ⟨hstarts, hpasses, fun events time => ⟨Logger.writes_run hstarts.ready events time, ?_⟩⟩
    simp only [hpasses, Filter.wants_covered_iff]
    by_cases hnone : directives = [] <;> simp [hnone]

def storeSettings : LoggerSettings where
  name := "store"
  filter := some "store=debug,store::disk=error"
  directory := some "logs"

def storeDirectives : Filter :=
  [{ target := "store", threshold := some .debug },
    { target := "store::disk", threshold := some .error }]

def storeEvents : List LogEvent :=
  [⟨"1", .debug, "store", "opened"⟩, ⟨"2", .warn, "store::disk", "slow"⟩,
    ⟨"3", .error, "network", "down"⟩]

theorem spells_storeDirectives :
    Filter.Spells "store=debug,store::disk=error" storeDirectives := by
  have hparts : Filter.parts "store=debug,store::disk=error" =
      ["store=debug", "store::disk=error"] := by decide +kernel
  rw [Filter.Spells, hparts, storeDirectives]
  refine .cons ?_ (.cons ?_ .nil)
  · exact ⟨rfl, rfl, ⟨'s', by decide, by decide⟩, by simp, "debug", by decide, by decide⟩
  · exact ⟨rfl, rfl, ⟨'s', by decide, by decide⟩, by simp, "error", by decide, by decide⟩

theorem exists_start_storeSettings : ∃ logger started,
    storeSettings.start none false ⟨[], .empty⟩ = (.ok logger, started) ∧
      started.console = [] ∧ storeSettings.Starts logger started ∧
      logger.passes = fun event => storeDirectives.allows event.target event.level := by
  have hfilter : (storeSettings.start none false ⟨[], .empty⟩).1.toOption.map (·.filter) =
      some storeDirectives := by decide +kernel
  obtain ⟨logger, hlogger, hlogged⟩ := Option.map_eq_some_iff.mp hfilter
  have hstarted : storeSettings.start none false ⟨[], .empty⟩ =
      (.ok logger, (storeSettings.start none false ⟨[], .empty⟩).2) :=
    Prod.ext (toOption_eq_some_iff.mp hlogger) rfl
  refine ⟨logger, _, hstarted, by decide +kernel, starts_of_start hstarted, ?_⟩
  funext event
  rw [Logger.passes, hlogged]

/-- The more specific directive holds the warning back. -/
theorem run_of_directives_store : ∃ logger started,
    storeSettings.start none false ⟨[], .empty⟩ = (.ok logger, started) ∧
      logger.Writes (storeEvents.take 1) started (logger.run storeEvents "4" started) := by
  obtain ⟨logger, started, hstarted, -, hstarts, hpasses⟩ := exists_start_storeSettings
  obtain ⟨-, -, hwritten⟩ := run_of_directives storeSettings "store=debug,store::disk=error"
    storeDirectives none false ⟨[], .empty⟩ rfl spells_storeDirectives
  obtain ⟨-, -, hruns⟩ := hwritten logger started hstarted
  have hpass : (logger.emitted storeEvents "4").filter logger.passes = storeEvents.take 1 := by
    rw [Logger.emitted, hstarts.writesFiles, hpasses]
    decide +kernel
  refine ⟨logger, started, hstarted, ?_⟩
  rw [← hpass]
  exact (hruns storeEvents "4").1

/-- The error of a target that no directive covers is lost, though the threshold lets it through. -/
theorem uncovered_error_lost : storeDirectives.Wants storeSettings.threshold "network" .error ∧
    ∃ logger started, storeSettings.start none false ⟨[], .empty⟩ = (.ok logger, started) ∧
      (logger.run [⟨"3", .error, "network", "down"⟩] "4" started).console = [] := by
  constructor
  · refine .inr ⟨?_, by decide⟩
    rintro ⟨directive, hdirective, hcovers⟩
    unfold Directive.Covers at hcovers
    revert directive
    decide
  · obtain ⟨logger, started, hstarted, hconsole, hstarts, hpasses⟩ := exists_start_storeSettings
    have hwrites := Logger.writes_run hstarts.ready [⟨"3", .error, "network", "down"⟩] "4"
    have hnone : (logger.emitted [⟨"3", .error, "network", "down"⟩] "4").filter logger.passes =
        [] := by
      rw [Logger.emitted, hstarts.writesFiles, hpasses]
      decide +kernel
    refine ⟨logger, started, hstarted, ?_⟩
    rw [hwrites.console, hnone, hconsole]
    simp

end LoggerSettings

end FeatureCheck
