/-
# Form data is read back

In form data a blank may also stand as a plus sign, and a star as itself. Pairs of names and values,
written like that byte by byte in whichever way, are read as those pairs in their order, whatever
characters the names and values have. What stands between two ampersands is read by itself.

Key definitions: `FormData.WritesByte`, `FormData.Writes`, `FormData.WritesPair`,
`FormData.WritesPairs`, `FormData.Carries`, `FormData.encode`.
Key theorems: `FormData.Writes.decodePart_eq`, `FormData.WritesPairs.parse_eq`,
`FormData.Carries.first`, `FormData.writes_encode`.
-/
import Soql.Proofs.Named.First
import Soql.Proofs.Text.Words
import Soql.Proofs.Url.Percent
import Soql.Url.FormData

namespace Soql.FormData

open Text

/-- The characters write the byte, in percent encoding or in the shorter ways of form data. -/
inductive WritesByte (b : UInt8) : List Char → Prop
  | percent {u : List Char} (h : Percent.WritesByte b u) : WritesByte b u
  | plus (blank : b = 32) : WritesByte b ['+']
  | star (star : b = 42) : WritesByte b ['*']

/-- The text `t` writes the text `s`. -/
def Writes (s : String) (t : List Char) : Prop := Utf8.Written WritesByte (Utf8.encode s.toList) t

/-- A name and a value with an equals sign between them. -/
inductive WritesPair : String × String → List Char → Prop
  | mk {name value : String} {n v : List Char} (hname : Writes name n) (hvalue : Writes value v) :
      WritesPair (name, value) (n ++ '=' :: v)

/-- Pairs with an ampersand between any two of them. -/
inductive WritesPairs : List (String × String) → List Char → Prop
  | nil : WritesPairs [] []
  | single {p : String × String} {t : List Char} (h : WritesPair p t) : WritesPairs [p] t
  | cons {p q : String × String} {ps : List (String × String)} {u t : List Char}
      (h : WritesPair p u) (hs : WritesPairs (q :: ps) t) :
      WritesPairs (p :: q :: ps) (u ++ '&' :: t)

/-- The pair stands in the text between ampersands, or at an end, and no pair of its name stands
before it. -/
def Carries (t : List Char) (name value : String) : Prop :=
  ∃ a u b, t = a ++ (u ++ b) ∧ WritesPair (name, value) u ∧ (∀ c ∈ a.getLast?, c = '&') ∧
    (∀ c ∈ b.head?, c = '&') ∧ Named.Absent (parse a) name

/-- The characters that write bytes. -/
def IsPlain (c : Char) : Prop := Percent.IsPlain c ∨ c = '*' ∨ c = '+'

instance : DecidablePred IsPlain := fun _ => inferInstanceAs (Decidable (_ ∨ _))

variable {b : UInt8} {bs : List UInt8} {s name value : String} {t u v : List Char}
  {p : String × String} {ps : List (String × String)} {ts : List (List Char)}

theorem writes_of_percent (h : Percent.Writes s t) : Writes s t := h.imp fun _ _ => .percent

/-! ### Characters -/

theorem IsPlain.bounds {c : Char} (h : IsPlain c) :
    (33 ≤ c.toNat ∧ c.toNat < 0x80) ∧ c ∉ ['#', '&', '/', '=', '?'] := by
  rcases h with h | rfl | rfl
  · obtain ⟨hbounds, hnot⟩ := h.bounds
    simp only [List.mem_cons, List.not_mem_nil, or_false, not_or] at hnot ⊢
    exact ⟨hbounds, hnot.1, hnot.2.1, hnot.2.2.2.2.1, hnot.2.2.2.2.2⟩
  · decide
  · decide

theorem WritesByte.isPlain (h : WritesByte b u) : ∀ c ∈ u, IsPlain c := by
  intro c hc
  cases h with
  | percent h => exact .inl (h.isPlain c hc)
  | plus _ => exact .inr (.inr (List.mem_singleton.1 hc))
  | star _ => exact .inr (.inl (List.mem_singleton.1 hc))

theorem Writes.isPlain (h : Writes s t) : ∀ c ∈ t, IsPlain c :=
  h.forall_mem fun _ _ hbyte => hbyte.isPlain

theorem WritesPair.isPlain (h : WritesPair p t) : ∀ c ∈ t, IsPlain c ∨ c = '=' := by
  obtain ⟨hname, hvalue⟩ := h
  intro c hc
  rcases List.mem_append.1 hc with hc | hc
  · exact .inl (hname.isPlain c hc)
  · rcases List.mem_cons.1 hc with rfl | hc
    · exact .inr rfl
    · exact .inl (hvalue.isPlain c hc)

theorem WritesPair.ne_amp (h : WritesPair p t) : ∀ c ∈ t, (c == '&') = false := by
  intro c hc
  rcases h.isPlain c hc with hc | rfl
  · have hnot := hc.bounds.2
    simp only [List.mem_cons, List.not_mem_nil, or_false, not_or] at hnot
    simpa using hnot.2.1
  · decide

/-! ### Names and values -/

/-- Percent encoding has no plus sign. -/
theorem map_plusToBlank : ∀ {u : List Char}, (∀ c ∈ u, Percent.IsPlain c) →
    (Utf8.encode u).map plusToBlank = Utf8.encode u
  | [], _ => rfl
  | c :: u, h => by
    obtain ⟨⟨-, hlt⟩, hnot⟩ := (h c List.mem_cons_self).bounds
    have hplus : UInt8.ofNat c.toNat ≠ 43 := by
      intro heq
      have hc := congrArg UInt8.toNat heq
      rw [Utf8.toNat_ofNat_of_lt (by omega)] at hc
      rw [← Char.ofNat_toNat c, hc] at hnot
      exact absurd hnot (by decide)
    rw [Utf8.encode_cons hlt, List.map_cons, plusToBlank, if_neg hplus,
      map_plusToBlank fun d hd => h d (List.mem_cons_of_mem _ hd)]

/-- What writes a byte is read as that byte. -/
theorem WritesByte.decodeBytes_eq (h : WritesByte b u) (bs : List UInt8) :
    Percent.decodeBytes ((Utf8.encode u).map plusToBlank ++ bs) =
      b :: Percent.decodeBytes bs := by
  cases h with
  | percent h => rw [map_plusToBlank h.isPlain, h.decodeBytes_eq]
  | plus blank =>
    rw [blank]
    exact Percent.decodeBytes_cons (by decide) bs
  | star star =>
    rw [star]
    exact Percent.decodeBytes_cons (by decide) bs

theorem decodeBytes_of_written (h : Utf8.Written WritesByte bs t) :
    Percent.decodeBytes ((Utf8.encode t).map plusToBlank) = bs := by
  induction h with
  | nil => rfl
  | cons byte _ ih => rw [Utf8.encode_append, List.map_append, byte.decodeBytes_eq, ih]

/-- What writes a text is read as that text. -/
theorem Writes.decodePart_eq (h : Writes s t) : decodePart t = s := by
  rw [decodePart, decodeBytes_of_written h, Utf8.decode_encode, String.ofList_toList]

/-! ### Pairs -/

/-- The name ends at the first equals sign, since no such sign writes a byte. -/
theorem WritesPair.decodePair_eq (h : WritesPair p t) : decodePair t = p := by
  obtain ⟨hname, hvalue⟩ := h
  rename_i n v
  have hn : ∀ c ∈ n, (c != '=') = true := fun c hc => by
    have hnot := (hname.isPlain c hc).bounds.2
    simp only [List.mem_cons, List.not_mem_nil, or_false, not_or] at hnot
    simpa using hnot.2.2.2.1
  have hempty : ('=' :: v).takeWhile (· != '=') = [] := rfl
  have hrest : (('=' :: v).dropWhile (· != '=')).drop 1 = v := rfl
  rw [decodePair, List.takeWhile_append_of_pos hn, List.dropWhile_append_of_pos hn, hempty, hrest,
    List.append_nil, hname.decodePart_eq, hvalue.decodePart_eq]

theorem WritesPair.ne_nil (h : WritesPair p t) : t ≠ [] := by
  cases h
  simp

/-- What comes before an ampersand is read by itself. -/
theorem parse_append {a s : List Char} (ha : ∀ c ∈ a.getLast?, c = '&') :
    parse (a ++ s) = parse a ++ parse s := by
  rcases List.eq_nil_or_concat a with rfl | ⟨a, d, rfl⟩
  · rfl
  · rw [List.concat_eq_append] at ha ⊢
    obtain rfl := ha d (by simp)
    have hnil : pieces (· == '&') [] = [[]] := rfl
    rw [parse, parse, parse, List.append_assoc, List.singleton_append,
      pieces_append_sep _ (by rfl), pieces_append_sep _ (by rfl), hnil]
    simp

theorem parse_amp (s : List Char) : parse ('&' :: s) = parse s :=
  parse_append (a := ['&']) (by simp)

/-- A pair, up to an ampersand or the end, is read by itself. -/
theorem WritesPair.parse_append (h : WritesPair p u) {b : List Char}
    (hb : ∀ c ∈ b.head?, c = '&') : parse (u ++ b) = p :: parse b := by
  cases b with
  | nil =>
    have hnil : parse [] = [] := rfl
    rw [List.append_nil, hnil, parse, pieces_of_not_mem h.ne_amp,
      List.filter_cons_of_pos (by simpa using h.ne_nil), List.filter_nil, List.map_singleton,
      h.decodePair_eq]
  | cons c b =>
    obtain rfl := hb c rfl
    rw [parse_amp, parse, parse, pieces_append_sep _ (by rfl), pieces_of_not_mem h.ne_amp,
      List.singleton_append, List.filter_cons_of_pos (by simpa using h.ne_nil), List.map_cons,
      h.decodePair_eq]

/-- Pairs that are written are read back in their order. -/
theorem WritesPairs.parse_eq (h : WritesPairs ps t) : parse t = ps := by
  induction h with
  | nil => rfl
  | @single p t h =>
    rw [← List.append_nil t, h.parse_append (by simp)]
    rfl
  | cons h _ ih => rw [h.parse_append (by simp), parse_amp, ih]

theorem WritesPairs.isPlain (h : WritesPairs ps t) : ∀ c ∈ t, IsPlain c ∨ c = '&' ∨ c = '=' := by
  induction h with
  | nil => simp
  | single h => exact fun c hc => (h.isPlain c hc).imp_right .inr
  | cons h _ ih =>
    intro c hc
    rcases List.mem_append.1 hc with hc | hc
    · exact (h.isPlain c hc).imp_right .inr
    · rcases List.mem_cons.1 hc with rfl | hc
      · exact .inr (.inl rfl)
      · exact ih c hc

/-- A pair that stands in the text before all others of its name is the first one. -/
theorem Carries.first (h : Carries t name value) : Named.First (parse t) name value := by
  obtain ⟨a, u, b, rfl, hu, ha, hb, habsent⟩ := h
  exact ⟨parse a, parse b, by rw [FormData.parse_append ha, hu.parse_append hb], habsent⟩

/-- Of pairs that are written, the first of each name is carried. -/
theorem WritesPairs.carries (h : WritesPairs ps t) (hfirst : Named.First ps name value) :
    Carries t name value := by
  induction h with
  | nil => exact absurd hfirst (by simp [Named.First])
  | single h =>
    rcases Named.first_cons_iff.1 hfirst with rfl | ⟨-, hfirst⟩
    · exact ⟨[], _, [], by simp, h, by simp, by simp, by simp [Named.Absent, parse, pieces]⟩
    · exact absurd hfirst (by simp [Named.First])
  | @cons p q ps u t h _ ih =>
    rcases Named.first_cons_iff.1 hfirst with rfl | ⟨hne, hfirst⟩
    · exact ⟨[], u, '&' :: t, rfl, h, by simp, by simp, by simp [Named.Absent, parse, pieces]⟩
    · obtain ⟨a, w, b, rfl, hw, ha, hb, habsent⟩ := ih hfirst
      refine ⟨u ++ '&' :: a, w, b, by simp, hw, fun c hc => ?_, hb, ?_⟩
      · rw [List.getLast?_append, List.getLast?_cons] at hc
        obtain rfl : a.getLast?.getD '&' = c := by simpa using hc
        cases hlast : a.getLast? with
        | none => rfl
        | some d => exact ha d hlast
      · rw [h.parse_append (by simp), parse_amp]
        exact List.forall_mem_cons.2 ⟨hne, habsent⟩

/-! ### Writing -/

/-- The usual way to write a byte. -/
def encodeByte (b : UInt8) : List Char :=
  if b = 32 then ['+'] else if b = 42 then ['*'] else Percent.encodeByte b

def encode (s : String) : List Char := (Utf8.encode s.toList).flatMap encodeByte

theorem writesByte_encodeByte (b : UInt8) : WritesByte b (encodeByte b) := by
  rw [encodeByte]
  split
  · exact .plus ‹_›
  · split
    · exact .star ‹_›
    · exact .percent (Percent.writesByte_encodeByte b)

theorem writes_encode (s : String) : Writes s (encode s) := by
  rw [Writes, encode]
  generalize Utf8.encode s.toList = bs
  induction bs with
  | nil => exact .nil
  | cons b bs ih => exact .cons (writesByte_encodeByte b) ih

end Soql.FormData
