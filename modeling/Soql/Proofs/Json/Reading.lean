/-
# Every text of a value is read as that value

A value without floating point numbers, whose whole numbers have 64 bits and which is
nested no deeper than the reader goes, is read from each of its texts, whatever comes
after the text that does not go on with a number.

The reader is given fuel; the length of the text is enough of it at every place.

Key definitions: `Json.FloatFree`, `Json.Plain`, `Json.Reads`, `Json.ReadsUpTo`.
Key theorems: `Json.reads_valueText`, `Json.parse_document`.
-/
import Soql.Proofs.Json.Scalar
import Soql.Proofs.Outcome

namespace Soql.Json

open Text

/-- No number in the value has a fraction or an exponent. -/
inductive FloatFree : Json → Prop where
  | null : FloatFree .null
  | bool (b) : FloatFree (.bool b)
  | int (n) : FloatFree (.int n)
  | str (s) : FloatFree (.str s)
  | arr {vs} (h : ∀ v ∈ vs, FloatFree v) : FloatFree (.arr vs)
  | obj {ms} (h : ∀ m ∈ ms, FloatFree m.2) : FloatFree (.obj ms)

/-- The value is nested at most `d` deep, and all its numbers are whole ones of 64 bits. -/
structure Plain (d : Nat) (v : Json) : Prop where
  fits : Fits d v
  floatFree : FloatFree v

namespace Plain

variable {d : Nat}

theorem null : Plain d .null := ⟨.null, .null⟩

theorem str (s : String) : Plain d (.str s) := ⟨.str s, .str s⟩

theorem arr {vs : List Json} (h : ∀ v ∈ vs, Plain d v) : Plain (d + 1) (.arr vs) :=
  ⟨.arr fun v hv => (h v hv).fits, .arr fun v hv => (h v hv).floatFree⟩

theorem obj {ms : List (String × Json)} (h : ∀ m ∈ ms, Plain d m.2) : Plain (d + 1) (.obj ms) :=
  ⟨.obj fun m hm => (h m hm).fits, .obj fun m hm => (h m hm).floatFree⟩

end Plain

/-! ### Gaps -/

variable {g g' s t u : List Char}

theorem skipGaps_gaps (hg : MayGaps g) : skipGaps (g ++ s) = skipGaps s :=
  List.dropWhile_append_of_pos hg

theorem skipGaps_cons {c : Char} (hc : isGap c = false) : skipGaps (c :: s) = c :: s :=
  dropWhile_of_stops (stopsAt_cons.2 hc)

theorem skipGaps_last (hg : MayGaps g) {c : Char} (hc : isGap c = false) :
    skipGaps (g ++ [c] ++ s) = c :: s := by
  rw [List.append_assoc, skipGaps_gaps hg]
  exact skipGaps_cons hc

theorem skipGaps_more (hg : MayGaps g) :
    skipGaps (g ++ ',' :: (g' ++ (t ++ u)) ++ s) = ',' :: (g' ++ (t ++ (u ++ s))) := by
  rw [List.append_assoc, skipGaps_gaps hg, List.cons_append, skipGaps_cons (by rfl)]
  simp only [List.append_assoc]

/-- Gaps do not go on with a number. -/
theorem stopsAt_goesOn_gaps (hg : MayGaps g) (hs : StopsAt goesOn s) :
    StopsAt goesOn (g ++ s) := by
  cases g with
  | nil => exact hs
  | cons c g =>
    have hc := hg c List.mem_cons_self
    simp only [isGap, Bool.or_eq_true, decide_eq_true_eq] at hc
    rw [List.cons_append, stopsAt_cons]
    rcases hc with ((rfl | rfl) | rfl) | rfl <;> decide

theorem readNested_gaps {care : Care} {n d : Nat} (hg : MayGaps g) :
    readNested care n d (g ++ s) = readNested care n d s := by
  simp only [readNested.eq_def care n d, skipGaps_gaps hg]

theorem stopsAt_itemsText {vs : List Json} (h : ItemsText u vs) (r : List Char) :
    StopsAt goesOn (u ++ r) := by
  cases h with
  | last gaps =>
    rw [List.append_assoc]
    exact stopsAt_goesOn_gaps gaps (stopsAt_cons.2 (by decide))
  | more gaps gaps' item rest =>
    rw [List.append_assoc]
    exact stopsAt_goesOn_gaps gaps (stopsAt_cons.2 (by decide))

theorem stopsAt_membersText {ms : List (String × Json)} (h : MembersText u ms) (r : List Char) :
    StopsAt goesOn (u ++ r) := by
  cases h with
  | last gaps =>
    rw [List.append_assoc]
    exact stopsAt_goesOn_gaps gaps (stopsAt_cons.2 (by decide))
  | more gaps gaps' member rest =>
    rw [List.append_assoc]
    exact stopsAt_goesOn_gaps gaps (stopsAt_cons.2 (by decide))

/-! ### Lists and objects -/

/-- The value `v` is read from the text `t`, whatever gaps stand before it and whatever may
come after a value. -/
def Reads (read : List Char → Except Fault (Json × List Char)) (t : List Char) (v : Json) : Prop :=
  ∀ g r, MayGaps g → StopsAt goesOn r → read (g ++ (t ++ r)) = .ok (v, r)

/-- The value `v` is read from each of its texts that has at most `n` characters. -/
def ReadsUpTo (read : List Char → Except Fault (Json × List Char)) (n : Nat) (v : Json) : Prop :=
  ∀ t, ValueText t v → t.length ≤ n → Reads read t v

variable {read : List Char → Except Fault (Json × List Char)} {n d : Nat} {v : Json}

/-- The items of a list are read when each of them is. -/
theorem readItems_text {m : Nat} {vs : List Json} (hread : ∀ w ∈ v :: vs, ReadsUpTo read m w)
    (hg : MayGaps g) (ht : ValueText t v) (hu : ItemsText u vs) (hn : u.length ≤ n)
    (hm : (t ++ u).length ≤ m) (r : List Char) :
    readItems read n (g ++ (t ++ (u ++ r))) = .ok (v :: vs, r) := by
  induction vs generalizing n g t u v with
  | nil =>
    have hstop := stopsAt_itemsText hu r
    cases hu with
    | @last g' gaps =>
      simp only [List.length_append, List.length_singleton] at hn hm
      obtain ⟨n, rfl⟩ : ∃ k, n = k + 1 := ⟨n - 1, by omega⟩
      have hend : skipGaps (g' ++ [']'] ++ r) = ']' :: r := skipGaps_last gaps (by rfl)
      rw [readItems, hread v List.mem_cons_self t ht (by omega) g _ hg hstop]
      simp only [ok_bind, hend, pure_eq_ok]
  | cons w vs ih =>
    have hstop := stopsAt_itemsText hu r
    cases hu with
    | @more g₁ g₂ t' u' _ _ gaps gaps' item rest =>
      simp only [List.length_append, List.length_cons] at hn hm
      obtain ⟨n, rfl⟩ : ∃ k, n = k + 1 := ⟨n - 1, by omega⟩
      have hrest := ih (n := n) (fun x hx => hread x (List.mem_cons_of_mem v hx)) gaps' item rest
        (by omega) (by rw [List.length_append]; omega)
      have hnext : skipGaps (g₁ ++ ',' :: (g₂ ++ (t' ++ u')) ++ r) =
          ',' :: (g₂ ++ (t' ++ (u' ++ r))) := skipGaps_more gaps
      rw [readItems, hread v List.mem_cons_self t ht (by omega) g _ hg hstop]
      simp only [ok_bind, hnext, hrest, pure_eq_ok]

theorem readName_text {name : String} (hg : MayGaps g) (ht : StringText t name.toList)
    (hg' : MayGaps g') (hn : name.toList.length < n) :
    readName .whole n (g ++ '"' :: (t ++ '"' :: (g' ++ ':' :: s))) = .ok (name, s) := by
  rw [readName, skipGaps_gaps hg, skipGaps_cons (by rfl)]
  simp only [readString_stringText ht _ hn, ok_bind, skipGaps_gaps hg',
    skipGaps_cons (show isGap ':' = false from rfl), pure_eq_ok, String.ofList_toList]

/-- A member is longer than its name and than its value. -/
theorem length_lt_memberText {m : String × Json} (h : MemberText t m) :
    m.1.toList.length < t.length := by
  cases h with
  | mk inside gaps gaps' value =>
    have := length_le_stringText inside
    simp only [List.length_cons, List.length_append]
    omega

/-- A member is read with its value, and the text after it tells whether there are more. -/
theorem readMembers_member {m : Nat} {name : String} (hv : ReadsUpTo read m v) (hg : MayGaps g)
    (ht : MemberText t (name, v)) (hn : t.length ≤ n + 1) (hm : t.length ≤ m)
    (hs : StopsAt goesOn s) :
    readMembers .whole read (n + 1) (g ++ (t ++ s)) =
      match skipGaps s with
      | ',' :: s => do
        let (ms, s) ← readMembers .whole read n s
        return ((name, v) :: ms, s)
      | '\x7d' :: s => return ([(name, v)], s)
      | s => throw (faultAt s) := by
  have hname := length_lt_memberText ht
  cases ht with
  | @mk w g₁ g₂ x _ _ inside gaps gaps' value =>
    simp only [List.length_cons, List.length_append] at hn hm hname
    simp only [List.cons_append, List.append_assoc]
    rw [readMembers, readName_text hg inside gaps (by omega), ok_bind]
    show (read (g₂ ++ (x ++ s)) >>= _) = _
    rw [hv x value (by omega) g₂ s gaps' hs]
    rfl

/-- The members of an object are read when the value of each of them is. -/
theorem readMembers_text {m : Nat} {e : String × Json} {ms : List (String × Json)}
    (hread : ∀ e' ∈ e :: ms, ReadsUpTo read m e'.2) (hg : MayGaps g) (ht : MemberText t e)
    (hu : MembersText u ms) (hn : (t ++ u).length ≤ n) (hm : (t ++ u).length ≤ m)
    (r : List Char) :
    readMembers .whole read n (g ++ (t ++ (u ++ r))) = .ok (e :: ms, r) := by
  induction ms generalizing n g t u e with
  | nil =>
    have hstop := stopsAt_membersText hu r
    cases hu with
    | @last g' gaps =>
      simp only [List.length_append, List.length_singleton] at hn hm
      obtain ⟨n, rfl⟩ : ∃ k, n = k + 1 := ⟨n - 1, by omega⟩
      have hend : skipGaps (g' ++ ['\x7d'] ++ r) = '\x7d' :: r := skipGaps_last gaps (by rfl)
      rw [readMembers_member (hread e List.mem_cons_self) hg ht (by omega) (by omega) hstop, hend]
      rfl
  | cons e' ms ih =>
    have hstop := stopsAt_membersText hu r
    cases hu with
    | @more g₁ g₂ t' u' _ _ gaps gaps' member rest =>
      simp only [List.length_append, List.length_cons] at hn hm
      obtain ⟨n, rfl⟩ : ∃ k, n = k + 1 := ⟨n - 1, by omega⟩
      have hfirst := length_lt_memberText ht
      have hrest := ih (n := n) (fun x hx => hread x (List.mem_cons_of_mem e hx)) gaps' member rest
        (by rw [List.length_append]; omega) (by rw [List.length_append]; omega)
      have hnext : skipGaps (g₁ ++ ',' :: (g₂ ++ (t' ++ u')) ++ r) =
          ',' :: (g₂ ++ (t' ++ (u' ++ r))) := skipGaps_more gaps
      rw [readMembers_member (hread e List.mem_cons_self) hg ht (by omega) (by omega) hstop, hnext]
      simp only [hrest, ok_bind, pure_eq_ok]

/-! ### Values -/

variable {care : Care}

theorem readNested_str : readNested care n d ('"' :: s) = do
    let (t, s) ← readString care n s
    return (.str (String.ofList t), s) := by
  rw [readNested.eq_def]
  rfl

/-- A number begins in its own way. -/
theorem ne_of_number {c : Char} (hc : c = '-' ∨ c.isDigit = true) {e : Char}
    (he : ¬(e = '-' ∨ e.isDigit = true)) : c ≠ e :=
  fun h => he (h ▸ hc)

theorem isGap_of_number {c : Char} (hc : c = '-' ∨ c.isDigit = true) : isGap c = false := by
  have hne := fun e => ne_of_number hc (e := e)
  simp [isGap, hne ' ' (by decide), hne '\n' (by decide), hne '\t' (by decide),
    hne '\r' (by decide)]

theorem readNested_number {c : Char} (hc : c = '-' ∨ c.isDigit = true) :
    readNested care n d (c :: s) = readNumberValue care (c :: s) := by
  have hne := fun e => ne_of_number hc (e := e)
  rw [readNested.eq_def]
  simp [skipGaps_cons (isGap_of_number hc), hne 'n' (by decide), hne 't' (by decide),
    hne 'f' (by decide), hne '"' (by decide), hne '[' (by decide), hne '\x7b' (by decide), hc]

/-- A list that is not empty is read item by item. -/
theorem readNested_arr (hg : MayGaps g) {c : Char} (hc : isGap c = false)
    (hend : c ≠ ']') :
    readNested care n (d + 1) ('[' :: (g ++ c :: s)) = do
      let (vs, s) ← readItems (readNested care n d) n (c :: s)
      return (.arr vs, s) := by
  rw [readNested.eq_def]
  simp only [skipGaps_cons (show isGap '[' = false from rfl), skipGaps_gaps hg, skipGaps_cons hc]
  split
  · rename_i heq
    exact absurd (List.cons.inj heq).1 hend
  · rfl

/-- An object that is not empty is read member by member. -/
theorem readNested_obj (hg : MayGaps g) :
    readNested care n (d + 1) ('\x7b' :: (g ++ '"' :: s)) = do
      let (ms, s) ← readMembers care (readNested care n d) n ('"' :: s)
      return (.obj ms, s) := by
  rw [readNested.eq_def]
  simp only [skipGaps_cons (show isGap '\x7b' = false from rfl), skipGaps_gaps hg,
    skipGaps_cons (show isGap '"' = false from rfl)]
  rfl

theorem toString_eq_cons (n : Int) : ∃ c s, (toString n).toList = c :: s ∧
    (c = '-' ∨ c.isDigit = true) := by
  cases n with
  | ofNat m =>
    obtain ⟨c, ds, h, hc, -⟩ := toDigits_eq_cons m
    exact ⟨c, ds, (toList_ofNat m).trans h, .inr hc⟩
  | negSucc m => exact ⟨'-', _, toList_negSucc m, .inl rfl⟩

theorem floatText_eq_cons (h : FloatText t) : ∃ c s, t = c :: s ∧
    (c = '-' ∨ c.isDigit = true) := by
  cases h with
  | plus number =>
    obtain ⟨⟨⟨hne, hdigits⟩, -⟩, -, -, -⟩ := number
    obtain ⟨c, ds, rfl⟩ := List.exists_cons_of_ne_nil hne
    exact ⟨c, _, rfl, .inr (hdigits c List.mem_cons_self)⟩
  | minus number => exact ⟨'-', _, rfl, .inl rfl⟩

/-- Where a value begins; a list could end there only by its closing bracket. -/
theorem valueText_eq_cons (h : ValueText t v) :
    ∃ c s, t = c :: s ∧ isGap c = false ∧ c ≠ ']' := by
  cases h with
  | null | yes | no | str | emptyArr | arr | emptyObj | obj =>
    exact ⟨_, _, rfl, by decide, by decide⟩
  | int n =>
    obtain ⟨c, s, h, hc⟩ := toString_eq_cons n
    exact ⟨c, s, h, isGap_of_number hc, ne_of_number hc (by decide)⟩
  | real x number =>
    obtain ⟨c, s, h, hc⟩ := floatText_eq_cons number
    exact ⟨c, s, h, isGap_of_number hc, ne_of_number hc (by decide)⟩

/-- A list is read when its items are. -/
theorem reads_arr {vs : List Json} (hread : ∀ v ∈ vs, ReadsUpTo (readNested .whole n d) n v) :
    ReadsUpTo (readNested .whole n (d + 1)) n (.arr vs) := by
  intro t ht hn g r hg hr
  rw [readNested_gaps hg]
  cases ht with
  | emptyArr gaps =>
    rw [readNested.eq_def]
    simp only [List.cons_append, List.append_assoc, skipGaps_cons (show isGap '[' = false from rfl),
      skipGaps_gaps gaps]
    rfl
  | @arr g' t' u' v vs gaps first rest =>
    obtain ⟨c, s, rfl, hgap, hclose⟩ := valueText_eq_cons first
    simp only [List.length_cons, List.length_append] at hn
    have hitems := readItems_text (n := n) hread mayGaps_nil first rest (by omega)
      (by simp only [List.length_cons, List.length_append]; omega) r
    simp only [List.nil_append, List.cons_append] at hitems
    simp only [List.cons_append, List.append_assoc]
    rw [readNested_arr gaps hgap hclose, hitems]
    rfl

/-- An object is read when the values of its members are. -/
theorem reads_obj {ms : List (String × Json)}
    (hread : ∀ m ∈ ms, ReadsUpTo (readNested .whole n d) n m.2) :
    ReadsUpTo (readNested .whole n (d + 1)) n (.obj ms) := by
  intro t ht hn g r hg hr
  rw [readNested_gaps hg]
  cases ht with
  | emptyObj gaps =>
    rw [readNested.eq_def]
    simp only [List.cons_append, List.append_assoc,
      skipGaps_cons (show isGap '\x7b' = false from rfl), skipGaps_gaps gaps]
    rfl
  | @obj g' t' u' m ms gaps first rest =>
    obtain ⟨s, rfl⟩ : ∃ s, t' = '"' :: s := by cases first; exact ⟨_, rfl⟩
    simp only [List.length_cons, List.length_append] at hn
    have hmembers := readMembers_text (n := n) hread mayGaps_nil first rest
      (by simp only [List.length_cons, List.length_append]; omega)
      (by simp only [List.length_cons, List.length_append]; omega) r
    simp only [List.nil_append, List.cons_append] at hmembers
    simp only [List.cons_append, List.append_assoc]
    rw [readNested_obj gaps, hmembers]
    rfl

/-- A value is read from each of its texts. -/
theorem reads_valueText (hf : Fits d v) :
    FloatFree v → ∀ n, ReadsUpTo (readNested .whole n d) n v := by
  -- the depth goes down with the value, while the fuel stays that of the whole text
  induction hf with
  | null =>
    intro _ n t ht hn g r hg hr
    cases ht
    rw [readNested_gaps hg, readNested.eq_def]
    rfl
  | bool b =>
    intro _ n t ht hn g r hg hr
    cases ht <;>
    · rw [readNested_gaps hg, readNested.eq_def]
      rfl
  | int hint =>
    intro _ n t ht hn g r hg hr
    cases ht
    obtain ⟨c, s, h, hc⟩ := toString_eq_cons _
    rw [readNested_gaps hg, h, List.cons_append, readNested_number hc, ← List.cons_append,
      ← h, readNumberValue_toString .whole hint hr]
  | real x => exact fun h => by cases h
  | str s =>
    intro _ n t ht hn g r hg hr
    cases ht with
    | @str u _ inside =>
      have hlen := length_le_stringText inside
      simp only [List.length_cons, List.length_append] at hn
      simp only [List.cons_append, List.append_assoc, List.nil_append]
      rw [readNested_gaps hg, readNested_str, readString_stringText inside r (by omega)]
      simp only [ok_bind, String.ofList_toList, pure_eq_ok]
  | @arr d vs h ih =>
    intro hfree n
    cases hfree with
    | arr hitems => exact reads_arr fun v hv => ih v hv (hitems v hv) n
  | @obj d ms h ih =>
    intro hfree n
    cases hfree with
    | obj hmembers => exact reads_obj fun m hm => ih m hm (hmembers m hm) n

theorem expectEnd_gaps (hg : MayGaps g) : expectEnd g = .ok () := by
  rw [← List.append_nil g, expectEnd, skipGaps_gaps hg]
  rfl

/-- A text of one value and nothing else. -/
theorem parse_document (hf : Fits maxDepth v) (hw : FloatFree v) {t : String}
    (h : Document t.toList v) : parse t = .ok v := by
  generalize ht : t.toList = s at h
  cases h with
  | @mk g u g' _ before value after =>
    have hstop : StopsAt goesOn g' := by
      rw [← List.append_nil g']
      exact stopsAt_goesOn_gaps after (stopsAt_nil _)
    have hread := reads_valueText hf hw (g ++ (u ++ g')).length u value
      (by simp only [List.length_append]; omega) g g' before hstop
    rw [parse, ht, readValue, hread]
    simp only [ok_bind, expectEnd_gaps after, pure_eq_ok]

end Soql.Json
