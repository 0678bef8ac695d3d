import SchemaMocks.CommandLine.Run
import SchemaMocks.Proofs.Config.Layering
import SchemaMocks.Proofs.Json.Record

set_option autoImplicit false
set_option relaxedAutoImplicit false

/-!
A generation that is asked for by a request and one that is asked for by a command on a file. Where
the file holds the parameters of the request, both are the same generation: the file is an envelope
by its keys, its settings are a single layer, and its output directory has nothing before it.
-/

namespace SchemaMocks

section Envelopes

variable {entries : List (String × Json)} {options : GeneratorOptions} {error : DecodeError}
  {text : String} {j : Json}

private theorem GeneratorOptions.isEnvelope_of_decode
    (h : GeneratorOptions.decode (.object entries) = .ok options) :
    GeneratorInput.isEnvelope (.object entries) = true := by
  have hfound := Fields.decoder_object_eq_ok_iff.1 h
  obtain ⟨f₁, _, h₁, -, -⟩ := FieldReport.join_eq_found_iff.1 hfound
  obtain ⟨f₂, _, h₂, -, -⟩ := FieldReport.join_eq_found_iff.1 h₁
  obtain ⟨f₃, _, h₃, hdocument, -⟩ := FieldReport.join_eq_found_iff.1 h₂
  obtain ⟨f₄, _, -, hgenerator, -⟩ := FieldReport.join_eq_found_iff.1 h₃
  have present : ∀ {α : Type} {name : String} {decode : Decoder α} {a : α},
      (Fields.required name decode).fromEntries entries = .found a →
        (Entries.get? name entries).isSome = true := by
    intro α name decode a ha
    rcases Fields.field_eq_found_iff.1 ha with ⟨-, hnone⟩ | ⟨j, hj, -⟩
    · cases hnone
    · rw [hj, Option.isSome_some]
  exact Bool.and_eq_true_iff.2 ⟨present hgenerator, present hdocument⟩

private theorem GeneratorInput.ofText_of_isEnvelope (hvalue : Json.read? text = some j)
    (henvelope : isEnvelope j = true) :
    ofText text = ((GeneratorOptions.decode j).map envelope).mapError .decode := by
  unfold ofText decode
  rw [hvalue]
  dsimp only
  rw [if_pos henvelope]

private theorem Request.job_eq_ok_iff {job : GenerationJob} :
    Request.job j = .ok job ↔
      ∃ options, GeneratorOptions.decode j = .ok options ∧ options.job = job :=
  Decoder.map_eq_ok_iff

private theorem Request.job_eq_error_iff :
    Request.job j = .error error ↔ GeneratorOptions.decode j = .error error := by
  unfold Request.job
  cases GeneratorOptions.decode j <;> simp [Except.map]

private theorem SettingLayers.values_generator (values : Dictionary String) :
    (SettingLayers.mk Dictionary.empty [] values).values = values := by
  refine Dictionary.ext_get? fun key => ?_
  have hempty : (Dictionary.empty : Dictionary String).get? key = none := rfl
  rw [SettingLayers.values, Dictionary.get?_override, Dictionary.get?_override, hempty]
  exact Option.or_none

private theorem GeneratorInput.job_envelope (options : GeneratorOptions) :
    (envelope options).job Dictionary.empty [] none = options.job := by
  unfold GeneratorInput.job GeneratorOptions.job SettingLayers.parsed
  rw [SettingLayers.values_generator]
  rfl

end Envelopes

section Sessions

variable {ε ε' α : Type} {s t u : Session} {path : Path} {text : String}

private theorem adapt_run (f : ε → ε') (act : ExceptT ε (StateM Session) α) (s : Session) :
    (ExceptT.adapt f act).run s = ((act.run s).1.mapError f, (act.run s).2) := rfl

private theorem readText_run (hfile : Host.read (m := StateM Session) path s = (.ok text.toUTF8, t)) :
    (Host.readText (m := StateM Session) path).run s = (.ok text, t) := by
  have htext : String.fromUTF8? text.toUTF8 = some text := dif_pos text.isValidUTF8
  have hbytes : (ExceptT.mk (Host.read (m := StateM Session) path)).run s = (.ok text.toUTF8, t) :=
    hfile
  unfold Host.readText
  rw [bind_run_of_ok hbytes, htext]
  rfl

private theorem loadInput_run (hfile : Host.read (m := StateM Session) path s = (.ok text.toUTF8, t)) :
    (loadInput (m := StateM Session) path).run s = (GeneratorInput.ofText text, t) := by
  unfold loadInput
  rw [bind_run_of_ok (a := text) (u := t) (by rw [adapt_run, readText_run hfile]; rfl)]
  rfl

variable {job : GenerationJob} {params : Json}

/-- The command that generates from a file alone. -/
def CommandSource.alone (path : Path) : CommandSource :=
  ⟨path, none, []⟩

private theorem CommandSource.alone_job_run
    (hfile : Host.read (m := StateM Session) path s = (.ok text.toUTF8, t)) :
    ((alone path).job (m := StateM Session) none).run s =
      (((GeneratorInput.ofText text).map fun input => input.job Dictionary.empty [] none).mapError
        .input, t) := by
  have hinput : (ExceptT.adapt CommandError.input (loadInput (m := StateM Session)
      (alone path).input)).run s = ((GeneratorInput.ofText text).mapError .input, t) := by
    rw [adapt_run, alone, loadInput_run hfile]
  unfold CommandSource.job
  rw [bind_run, hinput]
  cases GeneratorInput.ofText text with
  | error e => rfl
  | ok input => rfl

private theorem Request.generate_run (hjob : Request.job params = .ok job) :
    (Request.generate (m := StateM Session) params).run t =
      ((ExceptT.adapt RequestFailure.generation (job.run (m := StateM Session))) >>= fun _ =>
        return ()).run t := by
  have hdecoded : (ExceptT.mk (m := StateM Session)
      (pure ((Request.job params).mapError RequestFailure.decode))).run t = (.ok job, t) := by
    rw [hjob]
    rfl
  unfold Request.generate
  exact bind_run_of_ok hdecoded

private theorem generated_of_ok (hjob : Request.job params = .ok job)
    (hsource : ((CommandSource.alone path).job (m := StateM Session) none).run s = (.ok job, t))
    {result : GenerationResult} (hrun : (job.run (m := StateM Session)).run t = (.ok result, u)) :
    (Request.generate (m := StateM Session) params).run t = (.ok (), u) ∧
      (Command.generated (m := StateM Session) (.alone path) none).run s =
        (.ok (printed result.report.toJson),
          u.takeNotice (.runFinished result.outDir.text)) := by
  constructor
  · rw [Request.generate_run hjob, bind_run, adapt_run, hrun]
    rfl
  · unfold Command.generated
    rw [bind_run_of_ok hsource, bind_run, adapt_run, hrun]
    rfl

private theorem generated_of_error (hjob : Request.job params = .ok job)
    (hsource : ((CommandSource.alone path).job (m := StateM Session) none).run s = (.ok job, t))
    {fault : GenerationError} (hrun : (job.run (m := StateM Session)).run t = (.error fault, u)) :
    (Request.generate (m := StateM Session) params).run t = (.error (.generation fault), u) ∧
      (Command.generated (m := StateM Session) (.alone path) none).run s =
        (.error (.generation fault), u) := by
  constructor
  · rw [Request.generate_run hjob, bind_run, adapt_run, hrun]
    rfl
  · unfold Command.generated
    rw [bind_run_of_ok hsource, bind_run, adapt_run, hrun]
    rfl

/-- Where a file holds the parameters of a request, the command on it and the request make the same
job, of the same document, configuration and output directory, and its run decides on both. Where the
parameters have the keys of an envelope and cannot be read, the command fails like the request and
does not take them for a document. -/
theorem generations_agree {entries : List (String × Json)}
    (hvalue : Json.read? text = some (.object entries))
    (hfile : Host.read (m := StateM Session) path s = (.ok text.toUTF8, t)) :
    (∀ job, Request.job (.object entries) = .ok job →
      (∃ options, GeneratorInput.ofText text = .ok (.envelope options)) ∧
      ((CommandSource.alone path).job (m := StateM Session) none).run s = (.ok job, t) ∧
      (∀ result u, (job.run (m := StateM Session)).run t = (.ok result, u) →
        (Request.generate (m := StateM Session) (.object entries)).run t = (.ok (), u) ∧
        (Command.generated (m := StateM Session) (.alone path) none).run s =
          (.ok (printed result.report.toJson),
            u.takeNotice (.runFinished result.outDir.text))) ∧
      ∀ fault u, (job.run (m := StateM Session)).run t = (.error fault, u) →
        (Request.generate (m := StateM Session) (.object entries)).run t =
          (.error (.generation fault), u) ∧
        (Command.generated (m := StateM Session) (.alone path) none).run s =
          (.error (.generation fault), u)) ∧
    (GeneratorInput.isEnvelope (.object entries) = true → ∀ error,
      Request.job (.object entries) = .error error →
        (Request.generate (m := StateM Session) (.object entries)).run t =
          (.error (.decode error), t) ∧
        (Command.generated (m := StateM Session) (.alone path) none).run s =
          (.error (.input (.decode error)), t)) := by
  have hsource := CommandSource.alone_job_run hfile
  constructor
  · intro job hjob
    obtain ⟨options, hoptions, rfl⟩ := Request.job_eq_ok_iff.1 hjob
    have hinput : GeneratorInput.ofText text = .ok (.envelope options) := by
      rw [GeneratorInput.ofText_of_isEnvelope hvalue
        (GeneratorOptions.isEnvelope_of_decode hoptions), hoptions]
      rfl
    have hsame : ((CommandSource.alone path).job (m := StateM Session) none).run s =
        (.ok options.job, t) := by
      rw [hsource, hinput, ← GeneratorInput.job_envelope]
      rfl
    exact ⟨⟨options, hinput⟩, hsame, fun _ _ hrun => generated_of_ok hjob hsame hrun,
      fun _ _ hrun => generated_of_error hjob hsame hrun⟩
  · intro henvelope error herror
    have hinput : GeneratorInput.ofText text = .error (.decode error) := by
      rw [GeneratorInput.ofText_of_isEnvelope hvalue henvelope, Request.job_eq_error_iff.1 herror]
      rfl
    constructor
    · unfold Request.generate
      rw [herror]
      rfl
    · unfold Command.generated
      rw [bind_run, hsource, hinput]
      rfl

/-- Parameters with a blank output directory and a list for a setting: the command has the same job
as the request, without an output directory, and both fail for that reason. -/
theorem generations_agree_blankOutput :
    let entries : List (String × Json) := [
      ("dmmf", .object [("datamodel", .object [])]),
      ("generator", .object [
        ("config", .object [("mockSeed", Json.strings ["7", "8"])]),
        ("output", .object [("value", .string " ")])])]
    let text := "\x7b\"generator\": \x7b\"output\": \x7b\"value\": \" \"\x7d, " ++
      "\"config\": \x7b\"mockSeed\": [\"7\", \"8\"]\x7d\x7d, " ++
      "\"dmmf\": \x7b\"datamodel\": \x7b\x7d\x7d\x7d"
    let before : Session := .ofTree (FileTree.empty.put ["work", "in.json"] (.file text.toUTF8))
    let after := before.takeNotice
      (ConfigIssue.badInteger "mockSeed" "7,8").notice
    Json.read? text = some (.object entries) ∧
      Host.read (m := StateM Session) ⟨"in.json"⟩ before = (.ok text.toUTF8, before) ∧
      (Request.generate (m := StateM Session) (.object entries)).run before =
        (.error (.generation .missingOutput), after) ∧
      (Command.generated (m := StateM Session) (.alone ⟨"in.json"⟩) none).run before =
        (.error (.generation .missingOutput), after) := by
  intro entries text before after
  have hvalue : Json.read? text = some (.object entries) := by decide +kernel
  have hfile : Host.read (m := StateM Session) ⟨"in.json"⟩ before = (.ok text.toUTF8, before) := by
    rfl
  have hjob : Request.job (.object entries) = .ok ⟨⟨[], [], []⟩,
      ParsedConfig.ofValues (.ofList [("mockSeed", "7,8")]), none⟩ := by rfl
  obtain ⟨-, -, -, hfails⟩ := (generations_agree hvalue hfile).1 _ hjob
  exact ⟨hvalue, hfile, hfails .missingOutput after (by rfl)⟩

end Sessions

end SchemaMocks
