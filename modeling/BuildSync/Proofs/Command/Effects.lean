import BuildSync.Command.Run
import BuildSync.Proofs.Disk.Growth
import BuildSync.Proofs.Loading

/-!
# The effects of a reconcile run

The exit code says whether everything loads, whether something changes, whether it is saved and
whether all of this is printed. A run that fails touches no other file than the one it is to write,
and leaves the directories it has made for it.
-/

set_option autoImplicit false

namespace BuildSync.Command

/-- The command line asks for a reconcile run. -/
def Asks (arguments : List String) (request : ReconcileRequest) : Prop :=
  ∃ verbosity rest, readOpening arguments = .verb verbosity .reconcile rest ∧
    readRequest .reconcile rest = some (.reconcile request)

/-- Both documents and the settings load. -/
structure Loads (start : Start) (request : ReconcileRequest) (job : Job) (bc : BuildConfig)
    (settings : Settings) (system : System := .plain) : Prop where
  job : Job.load start.disk request.job system = .ok job
  buildConfig : BuildConfig.load start.disk request.buildConfig system = .ok bc
  settings : Settings.load start.disk start.env request.buildConfig.parent request.overrides
    system = .ok settings

/-- Nothing is said against any of the texts. -/
def World.Prints (world : World) (texts : List String) : Prop :=
  ∀ text ∈ texts, world.objection text = none

theorem World.prints_plain (texts : List String) : World.plain.Prints texts := fun _ _ => rfl

theorem World.objection_print_eq_none_iff {world : World} {texts : List String} :
    (world.print texts).objection = none ↔ world.Prints texts := by
  induction texts with
  | nil => exact iff_of_true rfl nofun
  | cons text rest ih =>
    rw [Prints, List.forall_mem_cons, ← Prints, ← ih, print]
    cases world.objection text <;> simp

namespace Noted

variable {α β : Type}

theorem result_bind_eq_ok_iff {a : Noted α} {f : α → Noted β} {y : β} :
    (a >>= f).result = .ok y ↔ ∃ x, a.result = .ok x ∧ (f x).result = .ok y := by
  change (a.bind f).result = .ok y ↔ _
  unfold bind
  cases a.result <;> simp

theorem result_ofResult (result : Except LoadError α) (event : α → Event) :
    (ofResult result event).result = result := by
  cases result <;> rfl

end Noted

section

variable {start : Start} {request : ReconcileRequest} {world : World} {job other : Job}
  {bc bc' : BuildConfig} {settings settings' : Settings} {system : System}
  {arguments : List String} {outcome : Outcome} {out : Path}

theorem result_computeReconcile_eq_ok_iff :
    (computeReconcile start request system).result = .ok outcome ↔
      ∃ job bc settings, Loads start request job bc settings system ∧
        reconcile settings job bc = outcome := by
  unfold computeReconcile
  simp only [Noted.result_bind_eq_ok_iff, notedJob, notedBuildConfig, notedSettings,
    Noted.result_ofResult, Except.ok.injEq]
  constructor
  · rintro ⟨job, hJob, bc, hBuildConfig, settings, hSettings, hOutcome⟩
    exact ⟨job, bc, settings, ⟨hJob, hBuildConfig, hSettings⟩, hOutcome⟩
  · rintro ⟨job, bc, settings, h, hOutcome⟩
    exact ⟨job, h.job, bc, h.buildConfig, settings, h.settings, hOutcome⟩

theorem Loads.unique (h : Loads start request job bc settings system)
    (h' : Loads start request other bc' settings' system) :
    job = other ∧ bc = bc' ∧ settings = settings' :=
  ⟨Except.ok.inj (h.job.symm.trans h'.job), Except.ok.inj (h.buildConfig.symm.trans h'.buildConfig),
    Except.ok.inj (h.settings.symm.trans h'.settings)⟩

/-- The run comes to an outcome and prints it. -/
structure Reports (start : Start) (request : ReconcileRequest) (world : World)
    (outcome : Outcome) : Prop where
  result : (computeReconcile start request world.system).result = .ok outcome
  prints : world.Prints (outcomeTexts start request outcome)

/-- What a reconcile run does, by how far it gets. -/
inductive Effect (start : Start) (request : ReconcileRequest) (world : World) :
    Nat → Disk → Prop
  | notReported (hReports : ∀ outcome, ¬Reports start request world outcome) :
    Effect start request world 1 start.disk
  | unchanged {outcome : Outcome} (hReports : Reports start request world outcome)
    (hChanged : outcome.changed = false) : Effect start request world 0 start.disk
  | reported {outcome : Outcome} (hReports : Reports start request world outcome)
    (hChanged : outcome.changed = true) (hOut : request.out = none) :
    Effect start request world 2 start.disk
  | notSaved {outcome : Outcome} {out : Path} (hReports : Reports start request world outcome)
    (hChanged : outcome.changed = true) (hOut : request.out = some out)
    (hSaved : (outcome.updated.save start.disk out world.system).error ≠ none) :
    Effect start request world 1 (outcome.updated.save start.disk out world.system).disk
  | notTold {outcome : Outcome} {out : Path} (hReports : Reports start request world outcome)
    (hChanged : outcome.changed = true) (hOut : request.out = some out)
    (hSaved : (outcome.updated.save start.disk out world.system).error = none)
    (hText : ¬world.Prints [savedText start out]) :
    Effect start request world 1 (outcome.updated.save start.disk out world.system).disk
  | saved {outcome : Outcome} {out : Path} (hReports : Reports start request world outcome)
    (hChanged : outcome.changed = true) (hOut : request.out = some out)
    (hSaved : (outcome.updated.save start.disk out world.system).error = none)
    (hText : world.Prints [savedText start out]) :
    Effect start request world 2 (outcome.updated.save start.disk out world.system).disk

theorem effect_runReconcile (start : Start) (level : Option Level) (request : ReconcileRequest)
    (world : World) :
    Effect start request world (runReconcile start level request world).exitCode
      (runReconcile start level request world).disk := by
  have hPrints : ∀ {texts : List String} {reason : String},
      (world.print texts).objection = some reason → ¬world.Prints texts := by
    intro texts reason hObjection hPrints
    cases hObjection.symm.trans (World.objection_print_eq_none_iff.mpr hPrints)
  unfold runReconcile
  dsimp only
  split
  · rename_i e hResult
    exact .notReported fun outcome hReports => by cases hResult.symm.trans hReports.result
  rename_i outcome hResult
  split
  · rename_i reason hObjection
    refine .notReported fun other hReports => hPrints hObjection ?_
    obtain rfl : outcome = other := Except.ok.inj (hResult.symm.trans hReports.result)
    exact hReports.prints
  rename_i hNone
  have hReports : Reports start request world outcome :=
    ⟨hResult, World.objection_print_eq_none_iff.mp hNone⟩
  split
  · rename_i hChanged
    exact .unchanged hReports (by simpa using hChanged)
  rename_i hChanged
  have hChanged : outcome.changed = true := by simpa using hChanged
  split
  · rename_i hOut
    exact .reported hReports hChanged hOut
  rename_i out hOut
  split
  · rename_i e hSaved
    exact .notSaved hReports hChanged hOut (Option.ne_none_iff_exists'.mpr ⟨e, hSaved⟩)
  rename_i hSaved
  split
  · rename_i reason hObjection
    exact .notTold hReports hChanged hOut hSaved (hPrints hObjection)
  · rename_i hNone
    exact .saved hReports hChanged hOut hSaved (World.objection_print_eq_none_iff.mp hNone)

theorem effect_run (hAsks : Asks arguments request) (world : World) :
    Effect start request world (run start arguments world).exitCode
      (run start arguments world).disk := by
  obtain ⟨verbosity, rest, hOpening, hRequest⟩ := hAsks
  have hComplaint : ∀ keepsColor setting (run : Run),
      (withComplaint keepsColor setting run).exitCode = run.exitCode ∧
        (withComplaint keepsColor setting run).disk = run.disk := by
    intro keepsColor setting run
    unfold withComplaint
    split <;> exact ⟨rfl, rfl⟩
  unfold run
  simp only [hOpening, hRequest, hComplaint]
  exact effect_runReconcile start _ request world

theorem Reports.unique {outcome other : Outcome} (h : Reports start request world outcome)
    (h' : Reports start request world other) : outcome = other :=
  Except.ok.inj (h.result.symm.trans h'.result)

theorem exists_reports_iff {p : Outcome → Prop} :
    (∃ outcome, Reports start request world outcome ∧ p outcome) ↔
      ∃ job bc settings, Loads start request job bc settings world.system ∧
        world.Prints (outcomeTexts start request (reconcile settings job bc)) ∧
        p (reconcile settings job bc) := by
  constructor
  · rintro ⟨outcome, ⟨hResult, hPrints⟩, hOutcome⟩
    obtain ⟨job, bc, settings, hLoads, rfl⟩ := result_computeReconcile_eq_ok_iff.mp hResult
    exact ⟨job, bc, settings, hLoads, hPrints, hOutcome⟩
  · rintro ⟨job, bc, settings, hLoads, hPrints, hOutcome⟩
    have hResult := result_computeReconcile_eq_ok_iff.mpr ⟨job, bc, settings, hLoads, rfl⟩
    exact ⟨_, ⟨hResult, hPrints⟩, hOutcome⟩

namespace Effect

variable {code : Nat} {disk : Disk} (h : Effect start request world code disk)

include h

theorem code_eq_zero_iff :
    code = 0 ↔ ∃ outcome, Reports start request world outcome ∧ outcome.changed = false := by
  constructor
  · intro hCode
    cases h with
    | unchanged hReports hChanged => exact ⟨_, hReports, hChanged⟩
    | _ => cases hCode
  · rintro ⟨outcome, hReports, hSame⟩
    cases h with
    | notReported hNone => exact absurd hReports (hNone outcome)
    | unchanged => rfl
    | reported hOther hChanged | notSaved hOther hChanged | notTold hOther hChanged
    | saved hOther hChanged =>
      obtain rfl := hReports.unique hOther
      cases hSame.symm.trans hChanged

theorem code_eq_two_iff :
    code = 2 ↔ ∃ outcome, Reports start request world outcome ∧ outcome.changed = true ∧
      ∀ out ∈ request.out, outcome.updated.Saved disk out world.system ∧
        world.Prints [savedText start out] := by
  constructor
  · intro hCode
    cases h with
    | reported hReports hChanged hOut => exact ⟨_, hReports, hChanged, by simp [hOut]⟩
    | saved hReports hChanged hOut hSaved hText =>
      refine ⟨_, hReports, hChanged, fun out hGiven => ?_⟩
      obtain rfl := Option.some_inj.mp (hOut.symm.trans hGiven)
      exact ⟨BuildConfig.error_save_eq_none_iff.mp hSaved, hText⟩
    | _ => cases hCode
  · rintro ⟨outcome, hReports, hChanged, hSaved⟩
    cases h with
    | notReported hNone => exact absurd hReports (hNone outcome)
    | unchanged hOther hSame =>
      obtain rfl := hReports.unique hOther
      cases hSame.symm.trans hChanged
    | reported => rfl
    | notSaved hOther _ hOut hError =>
      obtain rfl := hReports.unique hOther
      exact absurd (BuildConfig.error_save_eq_none_iff.mpr (hSaved _ hOut).1) hError
    | notTold _ _ hOut _ hText => exact absurd (hSaved _ hOut).2 hText
    | saved => rfl

theorem disk_of_two (hCode : code = 2) : ∀ out ∈ request.out, ∃ location found,
    disk.locate out world.system = .ok (location, found) ∧
      start.disk.Grows world.system (·.IsParent out) (Disk.Writes world.system location) disk := by
  cases h with
  | reported _ _ hOut => simp [hOut]
  | saved _ _ hOut hSaved =>
    intro out hGiven
    obtain rfl := Option.some_inj.mp (hOut.symm.trans hGiven)
    obtain ⟨location, ⟨found, hLocated, _⟩, hGrows⟩ := BuildConfig.grows_of_saved hSaved
    exact ⟨location, found, hLocated, hGrows⟩
  | _ => cases hCode

/-- A run that is to save what has changed ends as saving ends. -/
theorem of_reports (hReports : Reports start request world outcome)
    (hChanged : outcome.changed = true) (hOut : request.out = some out) :
    let saved := outcome.updated.save start.disk out world.system
    let told := world.Prints [savedText start out]
    disk = saved.disk ∧ (saved.error = none ∧ told → code = 2) ∧
      (saved.error ≠ none ∨ ¬told → code = 1) := by
  cases h with
  | notReported hNone => exact absurd hReports (hNone outcome)
  | unchanged hOther hSame =>
    obtain rfl := hReports.unique hOther
    cases hSame.symm.trans hChanged
  | reported _ _ hNone => cases hOut.symm.trans hNone
  | notSaved hOther _ hGiven hError =>
    obtain rfl := hReports.unique hOther
    obtain rfl := Option.some_inj.mp (hOut.symm.trans hGiven)
    exact ⟨rfl, fun hBoth => absurd hBoth.1 hError, fun _ => rfl⟩
  | notTold hOther _ hGiven _ hText =>
    obtain rfl := hReports.unique hOther
    obtain rfl := Option.some_inj.mp (hOut.symm.trans hGiven)
    exact ⟨rfl, fun hBoth => absurd hBoth.2 hText, fun _ => rfl⟩
  | saved hOther _ hGiven hSaved hText =>
    obtain rfl := hReports.unique hOther
    obtain rfl := Option.some_inj.mp (hOut.symm.trans hGiven)
    refine ⟨rfl, fun _ => rfl, ?_⟩
    rintro (hError | hUntold)
    · exact absurd hSaved hError
    · exact absurd hText hUntold

theorem disk_eq (hQuiet : code = 0 ∨ request.out = none) : disk = start.disk := by
  cases h with
  | notSaved _ _ hOut | notTold _ _ hOut | saved _ _ hOut => simp [hOut] at hQuiet
  | _ => rfl

end Effect

end

/-! ### A script that is to be stored -/

def scriptJobText : String := "definition:\n kind: inline\n script: x"

def scriptBuildText : String :=
  "metadata:\n name: a\nspec:\n strategy:\n  jenkinsPipelineStrategy:\n   jenkinsfile: y"

/-- A job with an inline script beside a pipeline build that stores another one. -/
def scriptStart : Start :=
  { env := []
    disk := ⟨[], [([['j']], .file scriptJobText.toUTF8), ([['b']], .file scriptBuildText.toUTF8)]⟩
    keepsColor := false }

def saveRequest (out : String) : ReconcileRequest :=
  ⟨Path.ofString "j", Path.ofString "b", some (Path.ofString out), false, false⟩

def scriptJob : Job := ⟨"", some (.inline "x" true), none⟩

/-- The pipeline build that stores the script. -/
def scriptBuild (script : String) : BuildConfig :=
  ⟨BuildConfig.defaultApiVersion, BuildConfig.model, ⟨"", "a", []⟩,
    some ⟨none, some ⟨none, some ⟨some script, none, []⟩, []⟩, []⟩, []⟩

def scriptSpec (script : String) : Value :=
  .object [("strategy",
    .object [("jenkinsPipelineStrategy", .object [("jenkinsfile", .text script)])])]

def scriptJobDocument : Entries :=
  [(.text "definition", .object [("kind", .text "inline"), ("script", .text "x")])]

/-- The document of the build. -/
def scriptDocument : Entries :=
  [(.text "metadata", .object [("name", .text "a")]), (.text "spec", scriptSpec "y")]

theorem isJson_scriptJobDocument : scriptJobDocument.IsJson := by
  refine Value.isJson_map_iff.mp (?_ : (Value.object
    [("definition", .object [("kind", .text "inline"), ("script", .text "x")])]).IsJson)
  simp

theorem isJson_scriptDocument : scriptDocument.IsJson := by
  refine Value.isJson_map_iff.mp (?_ : (Value.object
    [("metadata", .object [("name", .text "a")]), ("spec", scriptSpec "y")]).IsJson)
  simp [scriptSpec]

section

variable {start : Start} {system : System}

theorem readMapping_scriptBuild
    (h : start.disk.read (Path.ofString "b") system = .ok scriptBuildText.toUTF8) :
    readMapping start.disk (Path.ofString "b") system = .ok scriptDocument :=
  readMapping_of_read h (Value.eq_some_of_same (by decide +kernel)) isJson_scriptDocument

theorem readMapping_scriptJob
    (h : start.disk.read (Path.ofString "j") system = .ok scriptJobText.toUTF8) :
    readMapping start.disk (Path.ofString "j") system = .ok scriptJobDocument :=
  readMapping_of_read h (Value.eq_some_of_same (by decide +kernel)) isJson_scriptJobDocument

theorem loads_script {out : String} (hEnv : start.env = [])
    (hJob : start.disk.read (Path.ofString "j") system = .ok scriptJobText.toUTF8)
    (hBuild : start.disk.read (Path.ofString "b") system = .ok scriptBuildText.toUTF8)
    (hText : envFileText start.disk (Path.ofString "b").parent system = .ok "") :
    Loads start (saveRequest out) scriptJob (scriptBuild "y") .defaults system := by
  refine ⟨Job.load_eq_ok_iff.mpr ⟨_, readMapping_scriptJob hJob, rfl⟩,
    BuildConfig.load_eq_ok_iff.mpr ⟨_, readMapping_scriptBuild hBuild, rfl⟩, ?_⟩
  rw [hEnv]
  exact Settings.load_eq_defaults hText

end

theorem loads_scriptStart (out : String) :
    Loads scriptStart (saveRequest out) scriptJob (scriptBuild "y") .defaults :=
  loads_script rfl rfl rfl rfl

theorem run_script {start : Start} {world : World} {out : String}
    (hAsks : Asks ["reconcile", "j", "b", "--out", out] (saveRequest out))
    (hLoads : Loads start (saveRequest out) scriptJob (scriptBuild "y") .defaults world.system)
    (hPrints : world.Prints (outcomeTexts start (saveRequest out)
      (reconcile .defaults scriptJob (scriptBuild "y")))) :
    let after := run start ["reconcile", "j", "b", "--out", out] world
    let saved := start.disk.save (Path.ofString out) (scriptBuild "x").manifestBytes world.system
    let told := world.Prints [savedText start (Path.ofString out)]
    after.disk = saved.disk ∧ (saved.error = none → told → after.exitCode = 2) ∧
      (saved.error ≠ none ∨ ¬told → after.exitCode = 1) := by
  intro after saved told
  have hResult := result_computeReconcile_eq_ok_iff.mpr ⟨_, _, _, hLoads, rfl⟩
  obtain ⟨hDisk, hTwo, hOne⟩ := (effect_run hAsks world).of_reports ⟨hResult, hPrints⟩ rfl rfl
  have hSave : (scriptBuild "x").save start.disk (Path.ofString out) world.system =
      ⟨saved.disk, saved.error.map .file⟩ := rfl
  have hError : saved.error.map SaveError.file = none ↔ saved.error = none := Option.map_eq_none_iff
  have hUpdated : (reconcile .defaults scriptJob (scriptBuild "y")).updated = scriptBuild "x" := rfl
  rw [hUpdated, hSave] at hDisk hTwo hOne
  exact ⟨hDisk, fun hSaved hTold => hTwo ⟨hError.mpr hSaved, hTold⟩,
    fun hFails => hOne (hFails.imp_left (mt hError.mp))⟩

end BuildSync.Command
