import Mathlib.Data.List.Forall2
import SchemaMocks.Proofs.Json.Text
import SchemaMocks.Proofs.Request.Reading
import SchemaMocks.Proofs.Storage.Kinds
import SchemaMocks.Request.Serve

set_option autoImplicit false
set_option relaxedAutoImplicit false

/-!
Serving lines. Each line that holds a request is answered by a line of its own, in the order of the
requests, and what else is read leaves no mark on the answers.
-/

namespace SchemaMocks.Request

/-- Whether a line holds a request; a line that does not is blank or malformed. -/
def isRequest (line : String) : Bool :=
  match Line.ofText line with
  | .request _ => true
  | _ => false

/-- What is written for responses, one after the other. -/
def written (responses : List Response) : String :=
  String.join (responses.map Response.line)

def IsAnswerText (id : Json) (text : List Char) : Prop :=
  ∃ value, Json.IsText (.object [("jsonrpc", .string "2.0"), ("id", id), ("result", value)]) text ∨
    Json.IsText (.object [("jsonrpc", .string "2.0"), ("id", id), ("error", value)]) text

/-- Whether a text answers the request on a line: it bears the identifier that the line states, or null
where the line states none, and it is a line itself. -/
structure Answers (line : String) (text : List Char) : Prop where
  object : ∃ id?, IsIdOf (Text.trim line.toList) id? ∧ IsAnswerText (id?.getD .null) text
  visible : Json.IsVisible text

section Work

private theorem respects_run (job : GenerationJob) : Respects (job.run (m := StateM Session)).run :=
  Respects.bindRun (Respects.lift (respects_notices _)) fun _ => respects_generate _ _ _

private theorem respects_requested (params : Json) :
    Respects (generate (m := StateM Session) params).run := by
  unfold generate
  refine Respects.bindRun (respects_pure _) fun job => ?_
  exact Respects.bindRun (Respects.adapt _ (respects_run job)) fun _ => respects_return ()

private theorem respects_outcome (r : Request) : Respects (r.outcome (m := StateM Session)) := by
  unfold outcome
  split
  · exact respects_pure _
  · refine (respects_requested r.params).bind fun result => ?_
    cases result with
    | ok _ => exact respects_pure _
    | error failure => exact (respects_notice _).bind fun _ => respects_pure _
  · exact respects_pure _

private theorem respects_answer (r : Request) : Respects (r.answer (m := StateM Session)) :=
  (respects_outcome r).bind fun _ => respects_pure _

private theorem respects_answerLine (line : String) :
    Respects (answerLine (m := StateM Session) line) := by
  unfold answerLine
  split
  · exact respects_pure none
  · exact (respects_notice _).bind fun _ => respects_pure none
  · rename_i r hline
    exact (respects_notice _).bind fun _ => (respects_answer r).bind fun _ => respects_pure _

end Work

variable {line : String}

private theorem answerLine_of_not_isRequest {s t : Session} (h : isRequest line = false)
    (hst : s.Alike t) :
    (answerLine (m := StateM Session) line s).1 = none ∧
      (answerLine (m := StateM Session) line s).2.Alike t := by
  unfold isRequest at h
  unfold answerLine
  cases hline : Line.ofText line with
  | blank => exact ⟨rfl, hst⟩
  | malformed => exact ⟨rfl, takeNotice_alike _ hst⟩
  | request r => simp [hline] at h

private theorem answer_id (r : Request) (s : Session) :
    (r.answer (m := StateM Session) s).1.id = r.id := rfl

private theorem answerLine_of_isRequest (h : isRequest line = true) (s : Session) :
    ∃ response id?, (answerLine (m := StateM Session) line s).1 = some response ∧
      IsIdOf (Text.trim line.toList) id? ∧ response.id = id?.getD .null := by
  unfold isRequest at h
  unfold answerLine
  cases hline : Line.ofText line with
  | blank => simp [hline] at h
  | malformed => simp [hline] at h
  | request r =>
    obtain ⟨id?, hstates, hid⟩ := ofText_id hline
    let t := s.takeNotice (.requestReceived r.method)
    exact ⟨(r.answer (m := StateM Session) t).1, id?, rfl, hstates, by rw [answer_id, hid]⟩

private theorem serve_cons (lines : List String) (s : Session) :
    (serve (m := StateM Session) ((line :: lines).map some) s).1 =
      let answered := answerLine (m := StateM Session) line s
      let served := (serve (m := StateM Session) (lines.map some) answered.2).1
      (answered.1.toList ++ served.1, served.2) := rfl

private theorem serve_filter (lines : List String) {s t : Session} (h : s.Alike t) :
    (serve (m := StateM Session) (lines.map some) s).1 =
      (serve (m := StateM Session) ((lines.filter isRequest).map some) t).1 := by
  induction lines generalizing s t with
  | nil => rfl
  | cons line rest ih =>
    cases hline : isRequest line with
    | false =>
      -- only one of the runs meets the line, so from here on they are alike and no longer equal
      obtain ⟨hnone, hafter⟩ := answerLine_of_not_isRequest hline h
      rw [List.filter_cons_of_neg (by simp [hline]), serve_cons]
      dsimp only
      rw [hnone, ih hafter]
      rfl
    | true =>
      obtain ⟨hresponse, hafter⟩ := respects_answerLine line s t h
      rw [List.filter_cons_of_pos hline, serve_cons, serve_cons]
      dsimp only
      rw [hresponse, ih hafter]

private theorem response_isAnswerText (response : Response) :
    IsAnswerText response.id (Json.print response.toJson) := by
  unfold Response.toJson
  cases response.outcome with
  | ok result => exact ⟨result, .inl (Json.print_isText _)⟩
  | error e => exact ⟨e.toJson, .inr (Json.print_isText _)⟩

private theorem serve_answers (lines : List String) (s : Session) :
    (serve (m := StateM Session) (lines.map some) s).1.2 = none ∧
      List.Forall₂ (fun line response => Answers line (Json.print response.toJson))
        (lines.filter isRequest) (serve (m := StateM Session) (lines.map some) s).1.1 := by
  induction lines generalizing s with
  | nil => exact ⟨rfl, .nil⟩
  | cons line rest ih =>
    rw [serve_cons]
    obtain ⟨hfault, hothers⟩ := ih (answerLine (m := StateM Session) line s).2
    refine ⟨hfault, ?_⟩
    cases hline : isRequest line with
    | false =>
      dsimp only
      rw [List.filter_cons_of_neg (by simp [hline]),
        (answerLine_of_not_isRequest hline (.refl s)).1]
      exact hothers
    | true =>
      obtain ⟨response, id?, hresponse, hstates, hid⟩ := answerLine_of_isRequest hline s
      dsimp only
      rw [List.filter_cons_of_pos hline, hresponse]
      refine .cons ⟨⟨id?, hstates, ?_⟩, (Json.print_isText response.toJson).visible⟩ hothers
      rw [← hid]
      exact response_isAnswerText response

private theorem toList_written (responses : List Response) :
    (written responses).toList =
      (responses.map fun response => Json.print response.toJson).flatMap (· ++ ['\n']) := by
  simp [written, Response.line, Json.compact, Function.comp_def, List.flatMap_def]

/-- Lines are served to their end. What is written are the answers to the requests among them, in
order and one to a line, and the lines between them are of no account. -/
theorem requests_answered (s : Session) (lines : List String) :
    let served := (serve (m := StateM Session) (lines.map some) s).1
    served.2 = none ∧
    (∃ texts, List.Forall₂ Answers (lines.filter isRequest) texts ∧
      (written served.1).toList = texts.flatMap (· ++ ['\n'])) ∧
    ∀ others : List String, others.filter isRequest = lines.filter isRequest →
      (serve (m := StateM Session) (others.map some) s).1 = served := by
  obtain ⟨hfault, hanswers⟩ := serve_answers lines s
  refine ⟨hfault, ⟨_, List.forall₂_map_right_iff.2 hanswers, toList_written _⟩, ?_⟩
  intro others hothers
  rw [serve_filter others (.refl s), hothers, ← serve_filter lines (.refl s)]

/-- A method with a line break in its name, between lines that are passed over. -/
theorem requests_answered_lineBreak :
    let lines := ["", "[7,\"a\\nb\"]", "no request"]
    let served (lines : List String) :=
      (serve (m := StateM Session) (lines.map some) (.ofTree .empty)).1
    ["[7,\"a\\nb\"]"].filter isRequest = lines.filter isRequest ∧
      served ["[7,\"a\\nb\"]"] = served lines ∧
      written (served lines).1 = "\x7b\"jsonrpc\":\"2.0\",\"id\":7,\"error\":\x7b\"code\":-32601," ++
        "\"message\":\"method not found: a\\nb\"\x7d\x7d\n" := by
  have hlines : ["[7,\"a\\nb\"]"].filter isRequest =
      ["", "[7,\"a\\nb\"]", "no request"].filter isRequest := by decide +kernel
  exact ⟨hlines, (requests_answered (.ofTree .empty) _).2.2 _ hlines, by decide +kernel⟩

end SchemaMocks.Request
