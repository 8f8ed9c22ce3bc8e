/-
# A line that is no text ends the service

A stream of lines is served up to the first line whose bytes are no text; nothing after it
is looked at. Of the lines before, each that is not blank is answered by one line. One that
is no request is answered `invalid_request`, and the others are answered as if any other
line that is no request stood in its place.

Key definitions: `Service.fed`, `Service.requestOf`.
Key theorems: `Service.exists_texts`, `Service.serve_fed`, `Service.exchanges_of_read_eq_error`,
`Service.serves_until_malformed`.
-/
import Soql.Proofs.Service.Serve

namespace Soql.Service

open Json Text Utf8

/-- Lines of bytes one after another, each ended by a line feed. -/
def fed (ls : List (List UInt8)) : List UInt8 := ls.flatMap (· ++ [lineFeed])

/-- What a text asks for as a line that a line feed ends. -/
def requestOf (t : List Char) : String := InputLine.request ⟨t, true⟩

/-- The texts that are not blank as lines. -/
def asked (ts : List (List Char)) : List (List Char) :=
  ts.filter fun t => !isBlankString (requestOf t)

/-! ### Lines and their bytes -/

theorem cutLines_fed : ∀ {ls : List (List UInt8)}, (∀ l ∈ ls, lineFeed ∉ l) →
    cutLines (fed ls) = ls.map (· ++ [lineFeed])
  | [], _ => rfl
  | l :: ls, h => by
    obtain ⟨hl, hls⟩ := List.forall_mem_cons.1 h
    rw [fed, List.flatMap_cons, List.append_assoc, List.singleton_append,
      cutLines_append_feed hl, List.map_cons, ← cutLines_fed hls, fed]

theorem encode_concat_feed (t : List Char) : encode (t ++ ['\n']) = encode t ++ [lineFeed] :=
  encode_append t ['\n']

/-- Only the bytes of a text are those of a text with a line feed after them. -/
theorem exists_encode_of_feed {l : List UInt8} {t : List Char} (h : l ++ [lineFeed] = encode t) :
    ∃ t', l = encode t' := by
  rcases List.eq_nil_or_concat t with rfl | ⟨t, c, rfl⟩
  · exact absurd h (by simp [encode])
  · have hne : encode [c] ≠ [] := encode_ne_nil (List.cons_ne_nil _ _)
    obtain ⟨bs, b, hbytes⟩ : ∃ bs b, encode [c] = bs ++ [b] :=
      ⟨_, _, (List.dropLast_concat_getLast hne).symm⟩
    rw [List.concat_eq_append, encode_append, hbytes, ← List.append_assoc] at h
    obtain ⟨hinit, hlast⟩ := List.append_inj' h rfl
    obtain rfl : lineFeed = b := List.singleton_inj.1 hlast
    have hfeed : lineFeed ∈ encode [c] := hbytes ▸ List.mem_concat_self
    rw [encode, List.flatMap_singleton] at hfeed
    obtain rfl : c = '\n' := eq_feed_of_mem_encodeChar hfeed
    obtain rfl : bs = [] := by
      have hone : bs ++ [lineFeed] = [lineFeed] := hbytes.symm.trans (by rfl)
      exact List.append_left_eq_self.1 hone
    exact ⟨t, hinit.trans (List.append_nil _)⟩

theorem lineText?_feed_eq_none {l : List UInt8} (h : ∀ t, l ≠ encode t) :
    lineText? (l ++ [lineFeed]) = none := by
  cases hline : lineText? (l ++ [lineFeed]) with
  | none => rfl
  | some r =>
    obtain ⟨t, ht, -⟩ := Option.map_eq_some_iff.1 hline
    obtain ⟨t', rfl⟩ := exists_encode_of_feed (decode?_eq_some_iff.1 ht)
    exact absurd rfl (h t')

theorem feed_not_mem_of_encode {t : List Char} (h : lineFeed ∉ encode t) : '\n' ∉ t := fun hmem =>
  h (List.mem_flatMap.2 ⟨'\n', hmem, by decide⟩)

/-- Lines are those of texts up to the first one whose bytes are no text. -/
theorem exists_texts : ∀ ls : List (List UInt8),
    ∃ (ts : List (List Char)) (rest : List (List UInt8)),
      ls = ts.map encode ++ rest ∧ ∀ l ∈ rest.head?, ∀ t, l ≠ encode t
  | [] => ⟨[], [], rfl, nofun⟩
  | l :: ls => by
    by_cases h : ∃ t, l = encode t
    · obtain ⟨t, rfl⟩ := h
      obtain ⟨ts, rest, hls, hrest⟩ := exists_texts ls
      exact ⟨t :: ts, rest, congrArg (encode t :: ·) hls, hrest⟩
    · refine ⟨[], l :: ls, rfl, fun l' hl' t ht => h ⟨t, ?_⟩⟩
      rw [List.head?_cons, Option.mem_some_iff] at hl'
      rw [hl', ht]

/-! ### Serving up to a line that is no text -/

variable (v : Service)

theorem serveLines_stop {l : List UInt8} (h : ∀ t, l ≠ encode t) (ls : List (List UInt8)) :
    v.serveLines ((l ++ [lineFeed]) :: ls) = return ([], false) := by
  rw [serveLines, lineText?_feed_eq_none h]

theorem serve_fed {ts : List (List Char)} {rest : List (List UInt8)}
    (h : ∀ l ∈ ts.map encode ++ rest, lineFeed ∉ l) (hrest : ∀ l ∈ rest.head?, ∀ t, l ≠ encode t) :
    v.serve (fed (ts.map encode ++ rest)) = do
      let rs ← ((asked ts).map requestOf).mapM v.handleLine
      return (rs, rest.isEmpty) := by
  have hlines : ∀ l ∈ ts.map fun t => InputLine.mk t true, '\n' ∉ l.text := by
    intro l hl
    obtain ⟨t, ht, rfl⟩ := List.mem_map.1 hl
    exact feed_not_mem_of_encode (h _ (List.mem_append_left _ (List.mem_map_of_mem ht)))
  have htexts : (ts.map encode).map (· ++ [lineFeed]) =
      (ts.map fun t => InputLine.mk t true).map fun l => encode l.chars := by
    rw [List.map_map, List.map_map]
    exact List.map_congr_left fun t _ => (encode_concat_feed t).symm
  have hstop : v.serveLines (rest.map (· ++ [lineFeed])) = return ([], rest.isEmpty) := by
    cases rest with
    | nil => rfl
    | cons l ls => exact v.serveLines_stop (hrest l rfl) _
  have hasked : ((ts.map fun t => InputLine.mk t true).map InputLine.request).filter
      (!isBlankString ·) = (asked ts).map requestOf := by
    rw [List.map_map, List.filter_map]
    rfl
  rw [serve, cutLines_fed h, List.map_append, htexts, v.serveLines_append _ hlines, hstop, hasked]
  simp

/-! ### Lines that are no requests -/

section

variable {v} {ε : Type} (world : ε → Outside) (line : ε → String)

theorem exchanges_append : ∀ (as bs : List ε) (s : Session),
    v.exchanges world line (as ++ bs) s =
      v.exchanges world line as s ++
        v.exchanges world line bs (lastSession s (v.exchanges world line as s))
  | [], _, _ => rfl
  | a :: as, bs, s => by
    rw [List.cons_append, exchanges, exchanges, exchanges_append as bs]
    rfl

/-- A line that is no request is answered `invalid_request`, and what comes after it is answered
as if nothing stood in its place. -/
theorem exchanges_of_read_eq_error {a : ε} {e : ReadError} (h : Request.read (line a) = .error e)
    (as bs : List ε) (s : Session) :
    let xs := v.exchanges world line as s
    v.exchanges world line (as ++ a :: bs) s =
      xs ++ ⟨a, .failure (.badRequest e), lastSession s xs⟩ ::
        v.exchanges world line bs (lastSession s xs) := by
  rw [exchanges_append, exchanges, handleLine, h]
  rfl

end

/-- Every stream of lines is one of texts up to the first line that is none, if there is one. It is
served up to there, and nothing is answered after it. Every line before it that is not blank is
answered by one line, and one that is no request is answered as such and makes no difference to
the others. -/
theorem serves_until_malformed (v : Service) :
    (∀ ls : List (List UInt8), ∃ (ts : List (List Char)) (rest : List (List UInt8)),
      ls = ts.map encode ++ rest ∧ ∀ l ∈ rest.head?, ∀ t, l ≠ encode t) ∧
    ∀ (ts : List (List Char)) (rest : List (List UInt8)),
      (∀ l ∈ ts.map encode ++ rest, lineFeed ∉ l) → (∀ l ∈ rest.head?, ∀ t, l ≠ encode t) →
        let input := fed (ts.map encode ++ rest)
        (rest = [] ↔ ∀ l ∈ ts.map encode ++ rest, ∃ t, l = encode t) ∧
        (v.serve input = do
          let rs ← ((asked ts).map requestOf).mapM v.handleLine
          return (rs, rest.isEmpty)) ∧
        (∀ w s,
          let xs := v.exchanges (fun _ => w) requestOf (asked ts) s
          (v.serve input).run w s = ((xs.map Exchange.response, rest.isEmpty), lastSession s xs) ∧
          xs.map Exchange.entry = asked ts ∧
          (∀ x ∈ xs, ResponseText x.response.line.toList) ∧
          pieces (· == '\n') (String.join (xs.map fun x => x.response.line ++ "\n")).toList =
            xs.map (fun x => x.response.line.toList) ++ [[]]) ∧
        ∀ before t after e, asked ts = before ++ t :: after →
          Request.read (requestOf t) = .error e → ∀ world s,
            let xs := v.exchanges world requestOf before s
            let bad := Failure.badRequest e
            bad.code = "invalid_request" ∧
              v.exchanges world requestOf (asked ts) s =
                xs ++ ⟨t, .failure bad, lastSession s xs⟩ ::
                  v.exchanges world requestOf after (lastSession s xs) := by
  refine ⟨exists_texts, fun ts rest h hrest => ⟨⟨?_, ?_⟩, v.serve_fed h hrest, ?_, ?_⟩⟩
  · rintro rfl l hl
    rw [List.append_nil] at hl
    obtain ⟨t, -, rfl⟩ := List.mem_map.1 hl
    exact ⟨t, rfl⟩
  · intro hall
    cases rest with
    | nil => rfl
    | cons l rest =>
      obtain ⟨t, ht⟩ := hall l (List.mem_append_right _ List.mem_cons_self)
      exact absurd ht (hrest l rfl t)
  · intro w s
    refine ⟨?_, map_entry_exchanges v _ _ _ _, fun x _ => responseText_line x.response, ?_⟩
    · rw [v.serve_fed h hrest, Work.run_seq, run_mapM, Work.run_pure]
    · have hlines := pieces_join_lines
        ((v.exchanges (fun _ => w) requestOf (asked ts) s).map Exchange.response)
      rwa [List.map_map, List.map_map] at hlines
  · intro before t after e hasked hread world s
    rw [hasked]
    exact ⟨rfl, exchanges_of_read_eq_error world requestOf hread before after s⟩

theorem run_handleLine_compileCase (v : Service) (w : Outside) (s : Session) :
    (v.handleLine (requestOf
        "\x7b\"type\":\"SF_COMPILE\",\"spec\":\x7b\"object\":\"Case\"\x7d\x7d".toList)).run w s =
      (.success (.str "SELECT Id FROM Case"), s) := by
  have hread : Request.read (requestOf
      "\x7b\"type\":\"SF_COMPILE\",\"spec\":\x7b\"object\":\"Case\"\x7d\x7d".toList) =
        .ok (.compile (.on "Case")) := by rfl
  have htext : (Query.on "Case").compile = "SELECT Id FROM Case" := by rfl
  rw [handleLine, hread, ← htext]
  rfl

theorem encode_ne_of_decode? {l : List UInt8} (h : decode? l = none) (t : List Char) :
    l ≠ encode t := by
  rintro rfl
  rw [decode?_encode] at h
  cases h

/-- A line that is no request, a request, and another one after a line that is no text. -/
theorem serves_until_malformed_twoLines :
    let o := SignIn.Settings.default
    let v : Service := ⟨o, .default o⟩
    let w : Outside := ⟨0, "n", fun _ _ => .cancelled, fun _ _ => .ok ⟨200, "OK", ""⟩⟩
    let s := Session.openOn ⟨.ofEntries [], none, TokenStore.commonInstance⟩
    let line := "\x7b\"type\":\"SF_COMPILE\",\"spec\":\x7b\"object\":\"Case\"\x7d\x7d".toList
    let ts := ["not json".toList, line]
    let rest := [[0xFF], encode line]
    (∀ l ∈ ts.map encode ++ rest, lineFeed ∉ l) ∧ (∀ l ∈ rest.head?, ∀ t, l ≠ encode t) ∧
    (v.serve (fed (ts.map encode ++ rest))).run w s =
      (([.failure (.badRequest (.fault (.unexpected 'o'))),
        .success (.str "SELECT Id FROM Case")], false), s) := by
  intro o v w s line ts rest
  have hfeed : ∀ l ∈ ts.map encode ++ rest, lineFeed ∉ l := by decide
  have hrest : ∀ l ∈ rest.head?, ∀ t, l ≠ encode t := by
    rintro l ⟨⟩ t
    exact encode_ne_of_decode? (by decide) t
  obtain ⟨-, -, hrun, hbad⟩ := (serves_until_malformed v).2 ts rest hfeed hrest
  have hasked : asked ts = [] ++ "not json".toList :: [line] := by decide
  obtain ⟨-, hall⟩ := hbad [] _ [line] (.fault (.unexpected 'o')) hasked (by rfl) (fun _ => w) s
  refine ⟨hfeed, hrest, (hrun w s).1.trans ?_⟩
  rw [hall, exchanges, exchanges, run_handleLine_compileCase]
  rfl

/-- A request after a line that is no text is not answered. -/
theorem unanswered_after_malformed :
    let o := SignIn.Settings.default
    let v : Service := ⟨o, .default o⟩
    let w : Outside := ⟨0, "n", fun _ _ => .cancelled, fun _ _ => .ok ⟨200, "OK", ""⟩⟩
    let s := Session.openOn ⟨.ofEntries [], none, TokenStore.commonInstance⟩
    let line := "\x7b\"type\":\"SF_COMPILE\",\"spec\":\x7b\"object\":\"Case\"\x7d\x7d".toList
    (v.serve (fed [[0xFF], encode line])).run w s = (([], false), s) ∧
    (v.serve (fed [encode "not json".toList, encode line])).run w s =
      (([.failure (.badRequest (.fault (.unexpected 'o'))),
        .success (.str "SELECT Id FROM Case")], true), s) := by
  intro o v w s line
  have hbad : v.handleLine (requestOf "not json".toList) =
      return .failure (.badRequest (.fault (.unexpected 'o'))) := by rfl
  have hasked : asked ["not json".toList, line] = ["not json".toList, line] := by decide
  constructor
  · rw [← List.nil_append [[0xFF], encode line], ← List.map_nil, v.serve_fed (by decide)]
    · rfl
    · rintro l ⟨⟩ t
      exact encode_ne_of_decode? (by decide) t
  · have hserve := @serve_fed v ["not json".toList, line] [] (by decide) nofun
    rw [List.append_nil, List.map_cons, List.map_singleton, hasked] at hserve
    rw [hserve, Work.run_seq, run_mapM, exchanges, exchanges, exchanges, hbad,
      run_handleLine_compileCase]
    rfl

end Soql.Service
