/-
# Asking for the text of a query

A message that asks for the text of a query holds the query under `spec`. However the message
and the query in it are written, the answer is the text of the query, and nothing else comes
of it.

Key definitions: `Query.AskedBy`, `Query.message`.
Key theorems: `Query.compiled_alike`.
-/
import Soql.Proofs.Json.ReadBack
import Soql.Proofs.Query.Wire
import Soql.Proofs.Service.Request
import Soql.Service.Basic

namespace Soql.Query

open Json

/-- The value asks for the text of the query. -/
inductive AskedBy (q : Query) : Json → Prop
  | obj {ms : List (String × Json)} (members : WritesRecord [
      ("type", present (· = .str "SF_COMPILE")),
      ("spec", present q.WrittenAs)] ms) : q.AskedBy (.obj ms)

/-- The plain message with the JSON form of the query. -/
def message (q : Query) : String :=
  "\x7b\"type\":\"SF_COMPILE\",\"spec\":" ++ q.toJson.compact ++ "\x7d"

theorem ofMembers_compile {q : Query} {ms : List (String × Json)}
    (h : WritesRecord [("spec", present q.WrittenAs)] ms) :
    Request.ofMembers ms .compile = .ok (.compile q) := by
  have hspec : FieldReads (present q.WrittenAs) (Query.ofJson .kept)
      (.error (.missingField "spec")) q := .of_present fun _ hv => Query.ofJson_eq_ok hv .kept
  have hcheck := h.checkMembers_eq_ok (.cons (hspec.accepts _) .nil)
  rw [Request.ofMembers, Request.soleMember, hcheck]
  simp only [ok_bind, hspec.member_eq_ok h "spec" (by simp)]
  rfl

/-- The request that asks for the text of a query is read from whatever writes it. -/
theorem read_eq_compile {q : Query} {j : Json} (h : q.AskedBy j) {line : String}
    (hline : Document line.toList j) : Request.read line = .ok (.compile q) := by
  cases h with
  | obj members =>
    refine Request.read_eq_ok members (by simp) rfl (members.forall_values ?_ .str)
      (fun _ => ofMembers_compile) hline
    simp only [List.forall_mem_cons, present, forall_eq, List.not_mem_nil]
    exact ⟨.str _, fun _ hv => hv.plain (maxDepth - 4), fun _ h => h.elim⟩

theorem run_handleLine_of_askedBy {q : Query} {j : Json} (h : q.AskedBy j) {line : String}
    (hline : Document line.toList j) (v : Service) (w : Outside) (s : Session) :
    (v.handleLine line).run w s = (.success (.str q.compile), s) := by
  rw [Service.handleLine, read_eq_compile h hline]
  rfl

/-! ### The plain message -/

theorem askedBy_message (q : Query) :
    q.AskedBy (.obj [("type", .str "SF_COMPILE"), ("spec", q.toJson)]) :=
  .obj ⟨by simp, by simp [present, Named.get?, q.writtenAs_toJson], by simp⟩

theorem escaped_eq_of_toList {s t : String}
    (h : '"' :: s.toList.flatMap escapeChar ++ ['"'] = t.toList) : escaped s = t := by
  rw [escaped, h, String.ofList_toList]

theorem compact_message (j : Json) :
    compact (.obj [("type", .str "SF_COMPILE"), ("spec", j)]) =
      "\x7b\"type\":\"SF_COMPILE\",\"spec\":" ++ compact j ++ "\x7d" := by
  have htype : escaped "type" = "\"type\"" := escaped_eq_of_toList (by rfl)
  have hname : escaped "SF_COMPILE" = "\"SF_COMPILE\"" := escaped_eq_of_toList (by rfl)
  have hspec : escaped "spec" = "\"spec\"" := escaped_eq_of_toList (by rfl)
  have hstart : "\x7b\"type\":\"SF_COMPILE\",\"spec\":" =
      "\x7b" ++ "\"type\"" ++ ":" ++ "\"SF_COMPILE\"" ++ "," ++ "\"spec\"" ++ ":" := by decide
  rw [hstart, ← String.toList_inj]
  simp only [compact, compactMembers, htype, hname, hspec, String.toList_append,
    String.toList_intercalate, List.map_cons, List.map_nil, List.intercalate_cons_cons,
    List.intercalate_singleton, List.append_assoc]

theorem document_message (q : Query) :
    Document q.message.toList (.obj [("type", .str "SF_COMPILE"), ("spec", q.toJson)]) := by
  have h := valueText_compact (.obj [("type", .str "SF_COMPILE"), ("spec", q.toJson)])
  rw [compact_message q.toJson] at h
  exact .of_valueText h

/-- A query is read back from its JSON form, and whatever message asks for its text is answered
by it. -/
theorem compiled_alike (q : Query) :
    (parse q.toJson.compact = .ok q.toJson ∧ ∀ habit, Query.ofJson habit q.toJson = .ok q) ∧
    ∀ (v : Service) (w : Outside) (s : Session),
      (v.handleLine q.message).run w s = (.success (.str q.compile), s) ∧
      ∀ line j, q.AskedBy j → Document line.toList j →
        (v.handleLine line).run w s = (.success (.str q.compile), s) := by
  have hwritten := q.writtenAs_toJson
  have hplain := hwritten.plain (maxDepth - 3)
  refine ⟨⟨parse_compact hplain.fits hplain.floatFree, Query.ofJson_eq_ok hwritten⟩,
    fun v w s => ⟨?_, fun line j h hline => run_handleLine_of_askedBy h hline v w s⟩⟩
  exact run_handleLine_of_askedBy q.askedBy_message q.document_message v w s

/-- The kind stands last, a letter of a word is written by its number, the query has a note
beside it, and most of its parts are left out. -/
theorem compiled_alike_otherWay :
    let o := SignIn.Settings.default
    let v : Service := ⟨o, .default o⟩
    let w : Outside := ⟨0, "n", fun _ _ => .cancelled, fun _ _ => .ok ⟨200, "OK", ""⟩⟩
    let s := Session.openOn ⟨.ofEntries [], none, TokenStore.commonInstance⟩
    let line :=
      "\x7b\"spec\": \x7b\"note\":\"x\",\"object\":\"C\\u0061se\"\x7d,\"type\":\"SF_COMPILE\"\x7d"
    let j : Json := .obj [("spec", .obj [("note", .str "x"), ("object", .str "Case")]),
      ("type", .str "SF_COMPILE")]
    AskedBy (.on "Case") j ∧ Document line.toList j ∧
      (v.handleLine line).run w s = (.success (.str "SELECT Id FROM Case"), s) := by
  intro o v w s line j
  have hspec : WrittenAs (.on "Case") (.obj [("note", .str "x"), ("object", .str "Case")]) := by
    obtain ⟨hrecord⟩ := (Query.on "Case").writtenAs_toJson
    have hlast := hrecord.perm (@List.perm_append_comm _ [_] _)
    have hshort := (((hlast.tail (by simp [presentOr, Query.on])).tail
      (by simp [presentOr, Query.on])).tail (by simp [presentOr, Query.on])).tail
      (by simp [presentOr, Query.on])
    exact .obj (hshort.cons (by simp) "x")
  have hasked : AskedBy (.on "Case") j :=
    .obj (WritesRecord.perm ⟨by simp, by simp [present, Named.get?, hspec], by simp⟩ (.swap ..))
  have hword : StringText ("C\\u0061se".toList) "Case".toList :=
    .cons (.plain (by decide) (by decide) (by decide)) (.cons (.number (c := 'a')
      (.mk (a := '0') (b := '0') (c := '6') (d := '1') rfl rfl rfl rfl))
      (stringText_plain (s := ['s', 'e']) (by decide)))
  have hgap : MayGaps [' '] := List.forall_mem_singleton.2 rfl
  have hinner := ValueText.obj mayGaps_nil
    (.mk (stringText_plain (s := "note".toList) (by decide)) mayGaps_nil mayGaps_nil
      (.str (stringText_plain (s := "x".toList) (by decide))))
    (.more mayGaps_nil mayGaps_nil (.mk (stringText_plain (s := "object".toList) (by decide))
      mayGaps_nil mayGaps_nil (.str (s := "Case") hword)) (.last mayGaps_nil))
  have hvalue := ValueText.obj mayGaps_nil
    (.mk (stringText_plain (s := "spec".toList) (by decide)) mayGaps_nil hgap hinner)
    (.more mayGaps_nil mayGaps_nil (.mk (stringText_plain (s := "type".toList) (by decide))
      mayGaps_nil mayGaps_nil (.str (stringText_plain (s := "SF_COMPILE".toList) (by decide))))
      (.last mayGaps_nil))
  have hline : Document line.toList j := by
    convert Document.of_valueText hvalue using 1
    decide
  have hanswer := ((compiled_alike (.on "Case")).2 v w s).2 line j hasked hline
  exact ⟨hasked, hline, hanswer.trans (by rfl)⟩

end Soql.Query
