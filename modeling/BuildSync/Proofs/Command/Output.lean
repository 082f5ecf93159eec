import Mathlib.Tactic.SplitIfs
import BuildSync.Proofs.Command.FixedPoint
import BuildSync.Proofs.Job.RoundTrip
import BuildSync.Proofs.Report.Plain
import BuildSync.Proofs.Yaml.Comment
import BuildSync.Proofs.Yaml.Written

/-!
# What a map run prints

A map run prints a comment and the definition. The comment stands on one line where the path of the
script does, and then the output is read as the definition alone, as long as the path can be read.
-/

set_option autoImplicit false

namespace BuildSync

open Text (OnOneLine)

/-! ### The text of a definition -/

theorem isTextual_dumpRecord {values : List (String × Value)}
    (h : ∀ f ∈ values, f.2.isNull = false → f.2.IsTextual) :
    (dumpRecord .manifest values []).IsTextual := by
  rw [dumpRecord_nil]
  refine .map fun e he => ?_
  obtain ⟨hMem, hGiven⟩ := List.mem_filter.mp he
  rw [List.append_nil] at hMem
  obtain ⟨f, hf, rfl⟩ := List.mem_map.mp hMem
  exact h f hf (by simpa using hGiven)

theorem isTextual_optionalText {s? : Option String}
    (h : (Value.optionalText s?).isNull = false) : (Value.optionalText s?).IsTextual := by
  cases s? with
  | none => cases h
  | some s => exact .text s

theorem Remote.isTextual_dump (remote : Remote) : (remote.dump .manifest).IsTextual :=
  isTextual_dumpRecord (by simp +contextual [isTextual_optionalText])

theorem BranchSpec.isTextual_dump (branch : BranchSpec) : (branch.dump .manifest).IsTextual :=
  isTextual_dumpRecord (by simp [Value.IsTextual.text])

theorem isTextual_dumpUnsupported (className : String) :
    (dumpUnsupported .manifest className).IsTextual :=
  isTextual_dumpRecord (by simp [Value.IsTextual.text])

theorem Checkout.isTextual_dump {checkout : Checkout} (h : checkout.extensions = []) :
    (checkout.dump .manifest).IsTextual := by
  cases checkout with
  | git scm =>
    have hRemotes : (Value.list (scm.remotes.map (Remote.dump .manifest))).IsTextual :=
      .list (List.forall_mem_map.mpr fun remote _ => remote.isTextual_dump)
    have hBranches : (Value.list (scm.branches.map (BranchSpec.dump .manifest))).IsTextual :=
      .list (List.forall_mem_map.mpr fun branch _ => branch.isTextual_dump)
    have hExtensions : scm.extensions = [] := h
    refine isTextual_dumpRecord ?_
    simp [hRemotes, hBranches, hExtensions, Value.IsTextual.text, Value.IsTextual.list]
  | unsupported className => exact isTextual_dumpUnsupported className

theorem Definition.isTextual_dump {d : Definition} (h : d.extensions = []) :
    (d.dump .manifest).IsTextual := by
  cases d with
  | inline script sandbox =>
    exact isTextual_dumpRecord (by simp [Value.IsTextual.text, Value.IsTextual.bool])
  | scm checkout path =>
    have hCheckout := Checkout.isTextual_dump h
    exact isTextual_dumpRecord (by simp [hCheckout, Value.IsTextual.text])
  | unsupported className => exact isTextual_dumpUnsupported className

theorem isWritten_writeDefinition {d : Definition} (h : d.extensions = []) :
    Yaml.AllWritten (writeDefinition d).toList := by
  have hTextual := Definition.isTextual_dump h
  unfold writeDefinition
  split
  · rename_i entries hDump
    rw [hDump] at hTextual
    cases hTextual with
    | map hEntries => exact Yaml.isWritten_write hEntries
  · exact List.forall_mem_nil _

/-- The text of a definition holds no escape sequence. -/
theorem plain_writeDefinition {d : Definition} (h : d.extensions = []) :
    Report.plain (writeDefinition d) = writeDefinition d := by
  refine String.toList_inj.mp ?_
  rw [Report.toList_plain]
  exact Report.withoutSequences_eq_self fun hMem =>
    absurd (isWritten_writeDefinition h _ hMem) (by decide)

theorem head_writeDefinition {d : Definition} (h : d.extensions = []) :
    (writeDefinition d).toList.head? ≠ some '\uFEFF' := fun hHead =>
  absurd (isWritten_writeDefinition h _ (List.mem_of_mem_head? hHead)) (by decide)

namespace Report

/-- A header stands on one line exactly if the path of its script does. -/
theorem onOneLine_headerWords_iff (d : Definition) :
    OnOneLine (headerWords (some d)).toList ↔
      ∀ checkout path, d = .scm checkout path → OnOneLine path.toList := by
  have hInline : OnOneLine "Inline pipeline script".toList := by decide
  have hUnsupported : OnOneLine "Unsupported pipeline definition".toList := by decide
  have hLead : OnOneLine "Pipeline script ".toList := by decide
  have hFrom : OnOneLine " from checkout".toList := by decide
  cases d with
  | inline script sandbox =>
    refine iff_of_true hInline fun checkout path hScm => ?_
    cases hScm
  | scm checkout path =>
    simp only [toList_headerWords_scm, Text.onOneLine_append_iff, hLead, hFrom, true_and, and_true,
      Definition.scm.injEq]
    exact ⟨fun hPath _ _ hEq => hEq.2 ▸ hPath, fun hAll => hAll _ _ ⟨rfl, rfl⟩⟩
  | unsupported className =>
    refine iff_of_true hUnsupported fun checkout path hScm => ?_
    cases hScm

end Report

namespace Command

/-- The command line asks for a map run. -/
def AsksForMap (arguments : List String) (request : MapRequest) : Prop :=
  ∃ verbosity rest, readOpening arguments = .verb verbosity .map rest ∧
    readRequest .map rest = some (.map request)

/-- The BuildConfig and the settings load, and it maps to the definition. -/
inductive MapsTo (start : Start) (request : MapRequest) (d : Definition) : Prop
  | intro {bc : BuildConfig} {settings : Settings}
    (hLoad : BuildConfig.load start.disk request.buildConfig = .ok bc)
    (hSettings : Settings.load start.disk start.env request.buildConfig.parent [] = .ok settings)
    (hMapped : (mapDefinition settings (some (secretBridge settings)) bc).definition = some d) :
    MapsTo start request d

/-- What is printed has no colours: they are not asked for, or they are not kept. -/
def Colorless (start : Start) (request : MapRequest) : Prop :=
  usesColor start.env request.noColor = false ∨ start.keepsColor = false

/-- The comment in front of a definition that is printed. -/
def printedComment (start : Start) (d : Definition) : String :=
  echoed start.keepsColor (Report.header false (some d))

section

variable {start : Start} {request : MapRequest} {arguments : List String} {d : Definition}

theorem MapsTo.extensions (h : MapsTo start request d) : d.extensions = [] := by
  obtain ⟨_, _, hMapped⟩ := h
  exact extensions_of_mapped hMapped

theorem MapsTo.result (h : MapsTo start request d) :
    ∃ bc, (computeMap start request .plain).result = .ok ⟨bc, some d⟩ := by
  obtain @⟨bc, settings, hLoad, hSettings, hMapped⟩ := h
  refine ⟨bc, ?_⟩
  simp only [computeMap, Noted.result_bind_eq_ok_iff, notedBuildConfig, notedSettings,
    Noted.result_ofResult]
  exact ⟨bc, hLoad, settings, hSettings, by rw [hMapped]⟩

theorem echoed_header (h : Colorless start request) :
    echoed start.keepsColor (Report.header (usesColor start.env request.noColor) (some d)) =
      printedComment start d := by
  rcases h with hPlain | hStripped
  · rw [hPlain, printedComment]
  · simp only [printedComment, hStripped, echoed, Bool.false_eq_true, if_false,
      Report.plain_header]

theorem output_run_of_mapsTo (hAsks : AsksForMap arguments request)
    (hMaps : MapsTo start request d) (hColorless : Colorless start request) :
    (run start arguments).exitCode = 0 ∧
      (run start arguments).output = printedComment start d ++ "\n" ++ writeDefinition d := by
  obtain ⟨verbosity, rest, hOpening, hRequest⟩ := hAsks
  obtain ⟨bc, hResult⟩ := hMaps.result
  have hDocument : echoed start.keepsColor (writeDefinition d) = writeDefinition d := by
    unfold echoed
    split_ifs
    · rfl
    · exact plain_writeDefinition hMaps.extensions
  have hMap (level : Option Level) :
      (runMap start level request .plain).exitCode = 0 ∧
        (runMap start level request .plain).output =
          printedComment start d ++ "\n" ++ writeDefinition d := by
    simp only [runMap, World.plain, hResult, World.print, echoedLine, echoed_header hColorless,
      hDocument, String.append_empty, and_self]
  have hComplaint (setting : LogSetting) (run : Run) :
      (withComplaint start.keepsColor setting run).exitCode = run.exitCode ∧
        (withComplaint start.keepsColor setting run).output = run.output := by
    unfold withComplaint
    split <;> exact ⟨rfl, rfl⟩
  unfold run
  simp only [hOpening, hRequest, hComplaint]
  exact hMap _

/-- The printed comment is a number sign in front of the words of the header. -/
theorem toList_printedComment (start : Start) (d : Definition) :
    ∃ body, (printedComment start d).toList = '#' :: body ∧
      (OnOneLine body ↔ OnOneLine (Report.headerWords (some d)).toList) := by
  have hBlank (cs : List Char) : OnOneLine (' ' :: cs) ↔ OnOneLine cs := by
    simp [OnOneLine, Text.isLineBreak]
  unfold printedComment echoed
  split_ifs
  · exact ⟨_, Report.toList_header_false (some d), hBlank _⟩
  · exact ⟨_, Report.toList_plain_header (some d),
      (hBlank _).trans (Report.onOneLine_withoutSequences_iff _)⟩

/-- A map run prints the comment and the definition. The comment is one line exactly where the path
of the script is. If YAML ends no line inside the comment, the output is read as the definition
alone, or refused for a character of the comment that cannot be read. -/
theorem output_map (hAsks : AsksForMap arguments request) (hMaps : MapsTo start request d)
    (hColorless : Colorless start request) :
    let comment := printedComment start d
    let output := (run start arguments).output
    (run start arguments).exitCode = 0 ∧ output = comment ++ "\n" ++ writeDefinition d ∧
      comment.toList.head? = some '#' ∧
      (OnOneLine comment.toList ↔
        ∀ checkout path, d = .scm checkout path → OnOneLine path.toList) ∧
      ((∀ c ∈ comment.toList, Yaml.isAnyBreak c = false) →
        Yaml.readValue output.toList =
          if comment.toList.all Yaml.isPrintable then Yaml.readValue (writeDefinition d).toList
          else none) := by
  intro comment output
  obtain ⟨hCode, hOutput⟩ := output_run_of_mapsTo hAsks hMaps hColorless
  obtain ⟨body, hComment, hBody⟩ := toList_printedComment start d
  have hComment : comment.toList = '#' :: body := hComment
  have hMark : OnOneLine ('#' :: body) ↔ OnOneLine body := by
    simp [OnOneLine, Text.isLineBreak]
  refine ⟨hCode, hOutput, by rw [hComment]; rfl, ?_, ?_⟩
  · rw [hComment, hMark, hBody]
    exact Report.onOneLine_headerWords_iff d
  · intro hBreaks
    have hFeed : "\n".toList = ['\n'] := by decide
    have hText : output.toList = '#' :: (body ++ '\n' :: (writeDefinition d).toList) := by
      rw [show output = comment ++ "\n" ++ writeDefinition d from hOutput]
      simp only [String.toList_append, hComment, hFeed, List.append_assoc, List.cons_append,
        List.nil_append]
    have hPrintable : comment.toList.all Yaml.isPrintable = body.all Yaml.isPrintable := by
      rw [hComment, List.all_cons]
      rfl
    rw [hComment] at hBreaks
    rw [hText, hPrintable]
    exact Yaml.readValue_comment (fun c hc => hBreaks c (List.mem_cons_of_mem _ hc))
      (head_writeDefinition hMaps.extensions)

end

/-! ### A script in a checkout -/

/-- A build whose script lies in its checkout. The path stands between double quotes. -/
def checkoutStart (quoted : String) : Start :=
  { env := []
    disk := ⟨[], [([['b']], .file <| String.toUTF8 <|
      "metadata:\n name: a\nspec:\n source:\n  git:\n   uri: u\n strategy:\n" ++
        "  jenkinsPipelineStrategy:\n   jenkinsfilePath: \"" ++ quoted ++ "\"")]⟩
    keepsColor := false }

def checkoutRequest : MapRequest := ⟨Path.ofString "b", false⟩

def checkoutDocument (path : String) : Entries :=
  [(.text "metadata", .object [("name", .text "a")]),
    (.text "spec", .object
      [("source", .object [("git", .object [("uri", .text "u")])]),
        ("strategy", .object
          [("jenkinsPipelineStrategy", .object [("jenkinsfilePath", .text path)])])])]

def checkoutBuild (path : String) : BuildConfig :=
  ⟨BuildConfig.defaultApiVersion, BuildConfig.model, ⟨"", "a", []⟩,
    some ⟨some ⟨none, some ⟨some "u", none, []⟩, none, none, []⟩,
      some ⟨none, some ⟨none, some path, []⟩, []⟩, []⟩, []⟩

def checkoutDefinition (path : String) : Definition :=
  .scm (.git (checkoutOf "u" none none)) path

theorem mapsTo_checkoutDefinition {quoted path : String}
    (hRead : readMapping (checkoutStart quoted).disk (Path.ofString "b") =
      .ok (checkoutDocument path))
    (hMapped : (mapDefinition .defaults (some (secretBridge .defaults))
      (checkoutBuild path)).definition = some (checkoutDefinition path)) :
    MapsTo (checkoutStart quoted) checkoutRequest (checkoutDefinition path) :=
  ⟨BuildConfig.load_eq_ok_iff.mpr ⟨_, hRead, rfl⟩, Settings.load_eq_defaults rfl, hMapped⟩

theorem output_map_of_checkout :
    let start := checkoutStart "ci: #1/Jenkinsfile"
    let d := checkoutDefinition "ci: #1/Jenkinsfile"
    AsksForMap ["map", "b"] checkoutRequest ∧ MapsTo start checkoutRequest d ∧
      Colorless start checkoutRequest ∧ (run start ["map", "b"]).exitCode = 0 ∧
      Yaml.readValue (run start ["map", "b"]).output.toList =
        Yaml.readValue (writeDefinition d).toList := by
  intro start d
  have hMaps : MapsTo start checkoutRequest d :=
    mapsTo_checkoutDefinition (readMapping_of_sameEntries (by decide +kernel)) rfl
  have hAsks : AsksForMap ["map", "b"] checkoutRequest := ⟨0, _, rfl, rfl⟩
  have hColorless : Colorless start checkoutRequest := .inr rfl
  obtain ⟨hCode, _, _, _, hRead⟩ := output_map hAsks hMaps hColorless
  have hBreaks : (printedComment start d).toList.all (!Yaml.isAnyBreak ·) = true := by decide
  have hPrintable : (printedComment start d).toList.all Yaml.isPrintable = true := by decide
  refine ⟨hAsks, hMaps, hColorless, hCode, (hRead fun c hc => ?_).trans (if_pos hPrintable)⟩
  simpa using List.all_eq_true.mp hBreaks c hc

/-- What is written for the script, with its keys in order. -/
def checkoutManifest (path : String) : Entries :=
  [(.text "kind", .text "scm"),
    (.text "scm", .object
      [("branches", .list []), ("extensions", .list []), ("kind", .text "git"),
        ("userRemoteConfigs", .list [.object [("url", .text "u")]])]),
    (.text "scriptPath", .text path)]

theorem sortKeys_checkoutDefinition (path : String) :
    Yaml.sortKeys ((checkoutDefinition path).dump .manifest) = .map (checkoutManifest path) := by
  have hDump : (checkoutDefinition path).dump .manifest = .map
      [(.text "kind", .text "scm"),
        (.text "scm", .object
          [("kind", .text "git"), ("userRemoteConfigs", .list [.object [("url", .text "u")]]),
            ("branches", .list []), ("extensions", .list [])]),
        (.text "scriptPath", .text path)] := rfl
  have hUrl : Yaml.sortKeys (.object [("url", .text "u")]) = .object [("url", .text "u")] := by
    simp only [Value.object, List.map, Yaml.sortKeys, Yaml.sortKeysEntries,
      List.mergeSort_singleton]
  have hScm : Yaml.sortKeys (.object
      [("kind", .text "git"), ("userRemoteConfigs", .list [.object [("url", .text "u")]]),
        ("branches", .list []), ("extensions", .list [])]) = .object
      [("branches", .list []), ("extensions", .list []), ("kind", .text "git"),
        ("userRemoteConfigs", .list [.object [("url", .text "u")]])] := by
    unfold Value.object at hUrl ⊢
    simp only [List.map, Yaml.sortKeys, Yaml.sortKeysEntries, Yaml.sortKeysItems] at hUrl ⊢
    rw [hUrl]
    have hKeys : ["branches", "extensions", "kind", "userRemoteConfigs"].Pairwise (· < ·) := by
      decide
    exact congrArg Value.map (Yaml.mergeSort_keys (@List.perm_append_comm _ [_, _] [_, _]) hKeys)
  rw [hDump]
  simp only [Yaml.sortKeys, Yaml.sortKeysEntries, hScm]
  -- the outer keys are in order
  have hKeys : ["kind", "scm", "scriptPath"].Pairwise (· < ·) := by decide
  exact congrArg Value.map (Yaml.mergeSort_keys (.refl _) hKeys)

/-- What is printed for a path with a line feed in it. -/
def brokenPathText : String :=
  "kind: scm\nscm:\n  branches: []\n  extensions: []\n  kind: git\n  userRemoteConfigs:\n" ++
    "  - url: u\nscriptPath: \"x\\ny: z\"\n"

theorem writeDefinition_brokenPath :
    writeDefinition (checkoutDefinition "x\ny: z") = brokenPathText := by
  have hSorted := sortKeys_checkoutDefinition "x\ny: z"
  unfold checkoutDefinition at hSorted ⊢
  rw [Definition.dump_scm_eq] at hSorted
  rw [writeDefinition, Definition.dump_scm_eq]
  simp only [Yaml.write, hSorted]
  decide +kernel

/-- A line feed in the path ends the comment, and the rest of the path is read as an entry of the
definition. -/
theorem output_map_of_broken_path :
    let start := checkoutStart "x\\ny: z"
    let d := checkoutDefinition "x\ny: z"
    let output := (run start ["map", "b"]).output
    MapsTo start checkoutRequest d ∧ Colorless start checkoutRequest ∧
      (¬∃ comment : String, OnOneLine comment.toList ∧
        output = comment ++ "\n" ++ writeDefinition d) ∧
      Yaml.readValue output.toList ≠ Yaml.readValue (writeDefinition d).toList := by
  intro start d output
  have hMaps : MapsTo start checkoutRequest d :=
    mapsTo_checkoutDefinition (readMapping_of_sameEntries (by decide +kernel)) rfl
  have hColorless : Colorless start checkoutRequest := .inr rfl
  have hOutput : output = printedComment start d ++ "\n" ++ writeDefinition d :=
    (output_run_of_mapsTo ⟨0, _, rfl, rfl⟩ hMaps hColorless).2
  have hText : writeDefinition d = brokenPathText := writeDefinition_brokenPath
  refine ⟨hMaps, hColorless, ?_, ?_⟩
  · rintro ⟨comment, hOne, hComment⟩
    have hSame : printedComment start d = comment := by
      simpa only [String.append_left_inj] using hOutput.symm.trans hComment
    have hTwo : ¬OnOneLine (printedComment start d).toList := by decide
    exact hTwo (hSame ▸ hOne)
  · have hAlone : Yaml.readValue brokenPathText.toList = some (.map (checkoutManifest "x\ny: z")) :=
      Value.eq_some_of_same (by decide +kernel)
    have hWhole : Yaml.readValue (printedComment start d ++ "\n" ++ brokenPathText).toList =
        some (.map ((.text "y", .text "z from checkout") :: checkoutManifest "x\ny: z")) :=
      Value.eq_some_of_same (by decide +kernel)
    rw [hOutput, hText, hAlone, hWhole]
    intro hEq
    simp [checkoutManifest] at hEq

end Command

end BuildSync
