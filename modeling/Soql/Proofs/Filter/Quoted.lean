/-
# Values between quotes

The quotes around a value of a filter keep an AND or OR inside it, and they are gone once the
filter is read: how a value is rendered is told by its text alone. A text that stood between quotes
stands between single quotes in the query again, unless it begins with the mark of a variable or
writes a number; then it stands bare, as if it had been typed without quotes.

Key definitions: `Quotes`.
Key theorems: `Quotes.value`, `Quotes.mem`, `rendered_quoted_iff`, `quotedNumber_bare`.
-/
import Soql.Proofs.Filter.Dropped
import Soql.Proofs.Query.Literal

namespace Soql.Filter

open Text

/-- The filter has the condition `c`, and its value is the text `v` between two equal quotes. -/
inductive Quotes (c : Condition) (v : List Char) : List Char → Prop
  | here {b next : List Char} {q : Char} (quote : isQuote q = true) (inside : q ∉ v)
      (before : BeforeValue b (q :: (v ++ q :: next)))
      (condition : ConditionText (b ++ q :: (v ++ [q])) c next) :
      Quotes c v (b ++ q :: (v ++ q :: next))
  | later {t w s : List Char} {d : Condition} {k : Conjunction}
      (condition : ConditionText t d (w ++ s)) (connective : ConnectiveText w k)
      (rest : Quotes c v s) : Quotes c v (t ++ (w ++ s))

variable {c : Condition} {v s : List Char}

theorem readCondition_of_quoted {b next : List Char} {q : Char}
    (h : ConditionText (b ++ q :: (v ++ [q])) c next) :
    readCondition (b ++ q :: (v ++ q :: next)) = .ok (c, next) :=
  readCondition_eq_ok_iff.2 ⟨_, h, by simp⟩

theorem Quotes.stopsAt (h : Quotes c v s) : StopsAt isGap s := by
  cases h with
  | here _ _ _ condition =>
    obtain ⟨t, ht, hs⟩ := readCondition_eq_ok_iff.1 (readCondition_of_quoted condition)
    rw [hs]
    exact ht.stopsAt
  | later condition _ _ => exact condition.stopsAt

theorem Quotes.ne_nil (h : Quotes c v s) : s ≠ [] := by
  cases h with
  | here _ _ _ _ => simp
  | later _ connective _ =>
    obtain ⟨⟨hne, -⟩, -, -⟩ := connective
    simp [hne]

/-- What stands between the quotes is the value. -/
theorem Quotes.value (h : Quotes c v s) : c.value = String.ofList v := by
  induction h with
  | here quote inside before condition =>
    obtain ⟨d, hd, hvalue⟩ := before.readCondition quote inside
    have hread := (readCondition_of_quoted condition).symm.trans hd
    obtain ⟨rfl, -⟩ := Prod.mk.inj (Except.ok.inj hread)
    exact hvalue
  | later _ _ _ ih => exact ih

/-- The condition is among those that are read, joined to the next one if there is one. -/
theorem Quotes.mem (h : Quotes c v s) :
    ∀ {cs : List Condition}, FilterText s cs → ∃ k, c.joinedBy k ∈ cs := by
  induction h with
  | here _ _ _ condition =>
    intro cs hs
    rcases hs.cases_of_readCondition (readCondition_of_quoted condition) with
      ⟨-, rfl⟩ | ⟨w, s', k, cs', -, -, -, rfl⟩
    · exact ⟨c.conjunction, List.mem_singleton_self c⟩
    · exact ⟨some k, List.mem_cons_self⟩
  | later condition connective rest ih =>
    intro cs hs
    obtain ⟨cs', hs', rfl⟩ := hs.rest condition connective rest.stopsAt
    obtain ⟨k, hk⟩ := ih hs'
    exact ⟨k, List.mem_cons_of_mem _ hk⟩

/-! ### Printed filters -/

theorem printable_quoted (hne : c.field ≠ "") (hfield : IsName c.field)
    (hvalue : ¬('\'' ∈ c.value.toList ∧ '"' ∈ c.value.toList)) : Printable .quoted c :=
  ⟨fun h => hne (String.toList_eq_nil_iff.1 h), hfield, fun _ => hvalue, fun h => nomatch h⟩

/-- What is printed before a value stands before any value. -/
theorem beforeValue_print {f : List Char} (hne : f ≠ []) (hfield : ∀ d ∈ f, isFieldChar d = true)
    (op : Operator) (next : List Char) :
    BeforeValue (f ++ ([' '] ++ (op.symbol.toList ++ [' ']))) next :=
  .mk hne hfield (stopsAt_cons.2 (by decide)) gaps_blank.2 (operatorText_symbol op _) gaps_blank.2

/-- A condition that is printed in quotes stands in quotes, whatever comes after it. -/
theorem quotes_printCondition {next : List Char} (h : Printable .quoted c)
    (hnext : AfterCondition next) :
    Quotes (c.joinedBy none) c.value.toList (printCondition .quoted c ++ next) := by
  have hq := isQuote_quoteFor c.value.toList
  have hinside := quoteFor_not_mem (h.quoted rfl)
  have hcondition := conditionText_print h hnext
  simp only [printCondition, printValue] at hcondition ⊢
  generalize quoteFor c.value.toList = q at hq hinside hcondition ⊢
  have hhere := Quotes.here (c := c.joinedBy none) hq hinside
    (beforeValue_print h.field_ne h.field c.operator _) (by
      simpa only [List.append_assoc] using hcondition)
  simpa only [List.append_assoc, List.cons_append, List.nil_append] using hhere

/-- In a printed filter every condition that is printed in quotes stands in quotes. -/
theorem quotes_print : ∀ {l : List (Style × Condition)}, (∀ p ∈ l, Printable p.1 p.2) →
    Chained (l.map Prod.snd) → (.quoted, c) ∈ l →
    Quotes (c.joinedBy none) c.value.toList (print l)
  | [], _, _, hmem => absurd hmem List.not_mem_nil
  | [_], hl, _, hmem => by
    obtain rfl := List.mem_singleton.1 hmem
    simpa [print] using quotes_printCondition (hl _ List.mem_cons_self) (Or.inl rfl)
  | (style, d) :: next :: rest, hl, hc, hmem => by
    obtain ⟨k, hk⟩ := Option.isSome_iff_exists.1 hc.1
    have hafter : AfterCondition (printConjunction (some k) ++ print (next :: rest)) :=
      Or.inr ⟨k, _, rfl⟩
    rw [print, hk]
    rcases List.mem_cons.1 hmem with heq | hmem
    · obtain ⟨rfl, rfl⟩ := Prod.mk.inj heq
      exact quotes_printCondition (hl _ List.mem_cons_self) hafter
    · exact .later (conditionText_print (hl _ List.mem_cons_self) hafter) (connectiveText_print k)
        (quotes_print (fun p hp => hl p (List.mem_cons_of_mem _ hp)) hc.2 hmem)

/-! ### The field -/

theorem stripped_of_isName {f : String} (h : IsName f) : stripped f = f := by
  have hblank : ∀ d ∈ f.toList, isBlank d = false := fun d hd => not_isBlank_of_isFieldChar (h d hd)
  rcases List.eq_nil_or_concat f.toList with hnil | ⟨t, d, hf⟩
  · obtain rfl := String.toList_eq_nil_iff.1 hnil
    rfl
  · rw [List.concat_eq_append] at hf
    have hlast : d ∈ f.toList := by simp [hf]
    rw [stripped, trim_eq_self hf (hblank d hlast) fun e he => hblank e (List.mem_of_mem_head? he),
      String.ofList_toList]

theorem ConditionText.isName {t next : List Char} (h : ConditionText t c next) :
    IsName c.field := by
  obtain ⟨-, field, -⟩ := h
  intro d hd
  exact field d (by simpa [Condition.single] using hd)

theorem FilterText.isName {cs : List Condition} (h : FilterText s cs) :
    ∀ c ∈ cs, IsName c.field := by
  induction h with
  | last condition => exact fun c hc => List.mem_singleton.1 hc ▸ condition.isName
  | more condition _ _ ih => exact List.forall_mem_cons.2 ⟨condition.isName, ih⟩

theorem render_of_isName (h : IsName c.field) :
    c.render = c.field ++ " " ++ c.operator.symbol ++ " " ++ literal c.operator c.value := by
  rw [Condition.render, stripped_of_isName h]

/-! ### The value -/

/-- A value of an accepted filter that is not empty and stands between quotes, after an operator
that takes it as one text, is rendered between single quotes exactly when it neither begins with the
mark of a variable nor writes a number. One that does is rendered bare. -/
theorem rendered_quoted_iff {text : String} {cs : List Condition} (h : parse text = .ok cs)
    (hquotes : Quotes c v (trim text.toList)) (hv : v ≠ []) (hop : c.operator.TakesText) :
    ∃ k, c.joinedBy k ∈ cs ∧ (c.joinedBy k).isActive = true ∧
      ((c.joinedBy k).render =
          c.field ++ " " ++ c.operator.symbol ++ " " ++ inQuotes (String.ofList v) ↔
        ¬StandsAlone v) ∧
      (StandsAlone v →
        (c.joinedBy k).render = c.field ++ " " ++ c.operator.symbol ++ " " ++ String.ofList v) := by
  have hs : FilterText (trim text.toList) cs := by
    rcases parse_cases h with ⟨hnil, -⟩ | hs
    · exact absurd hnil hquotes.ne_nil
    · exact hs
  obtain ⟨k, hk⟩ := hquotes.mem hs
  have hvalue : (c.joinedBy k).value = String.ofList v := hquotes.value
  have hrender := render_of_isName (hs.isName _ hk)
  rw [hvalue] at hrender
  refine ⟨k, hk, ?_, ?_, fun halone => ?_⟩
  · rw [hs.isActive_eq _ hk, hvalue]
    simpa using hv
  · have hiff := literal_eq_inQuotes_iff hop (String.ofList v)
    rw [String.toList_ofList] at hiff
    rw [hrender, ← hiff]
    exact ⟨fun heq => (String.append_right_inj _).1 heq, fun heq => heq ▸ rfl⟩
  · have hbare : literal c.operator (String.ofList v) = String.ofList v :=
      literal_of_standsAlone hop (by rwa [String.toList_ofList])
    rw [hrender]
    exact congrArg (c.field ++ " " ++ c.operator.symbol ++ " " ++ ·) hbare

/-- A text with a connective and single quotes inside stands between single quotes again. -/
theorem rendered_quoted_iff_connectiveInside :
    let c : Condition := ⟨"Name", .ne, "1 'AND' 1", none⟩
    let cs : List Condition := [c.joinedBy (some .or), ⟨"Zip", .eq, "5", none⟩]
    parse "Name != \"1 'AND' 1\" OR Zip = '5'" = .ok cs ∧
      Quotes c "1 'AND' 1".toList (trim "Name != \"1 'AND' 1\" OR Zip = '5'".toList) ∧
      c.operator.TakesText ∧
      ∃ k, c.joinedBy k ∈ cs ∧ (c.joinedBy k).render = "Name != '1 'AND' 1'" := by
  intro c cs
  have hparse : parse "Name != \"1 'AND' 1\" OR Zip = '5'" = .ok cs := rfl
  have hprint : trim "Name != \"1 'AND' 1\" OR Zip = '5'".toList =
      print [(.quoted, c.joinedBy (some .or)), (.quoted, ⟨"Zip", .eq, "5", none⟩)] := by decide
  have hquotes : Quotes c "1 'AND' 1".toList
      (trim "Name != \"1 'AND' 1\" OR Zip = '5'".toList) := by
    rw [hprint]
    refine quotes_print (c := c.joinedBy (some .or)) ?_ ⟨rfl, rfl⟩ List.mem_cons_self
    simp only [List.forall_mem_cons]
    exact ⟨printable_quoted (by decide) (by decide) (by decide),
      printable_quoted (by decide) (by decide) (by decide), fun _ h => absurd h List.not_mem_nil⟩
  obtain ⟨k, hmem, -, hrender, -⟩ := rendered_quoted_iff hparse hquotes (by decide) (by decide)
  exact ⟨hparse, hquotes, by decide, k, hmem, hrender.2 (by decide)⟩

/-- A text of digits is a number in the query, though it stood between quotes. -/
theorem quotedNumber_bare :
    let zip : Condition := ⟨"Zip", .eq, "02134", none⟩
    parse "Zip = '02134'" = .ok [zip] ∧ Quotes zip "02134".toList (trim "Zip = '02134'".toList) ∧
      zip.render = "Zip = 02134" ∧ clause [zip] = "Zip = 02134" ∧
      zip.render ≠ "Zip = '02134'" := by
  intro zip
  have hprint : trim "Zip = '02134'".toList = print [(.quoted, zip)] := by decide
  have hquotes : Quotes zip "02134".toList (trim "Zip = '02134'".toList) := by
    rw [hprint]
    refine quotes_print (c := zip) (fun p hp => ?_) rfl List.mem_cons_self
    rw [List.mem_singleton.1 hp]
    exact printable_quoted (by decide) (by decide) (by decide)
  have hrender : zip.render = "Zip = 02134" := by
    rw [render_of_isName (by decide), literal_of_standsAlone (by decide) (by decide)]
    rfl
  have hclause : clause [zip] = zip.render := by
    have hactive : zip.isActive = true := by decide
    simp [clause, activeConditions, hactive, orRuns, renderRun]
  exact ⟨rfl, hquotes, hrender, hclause.trans hrender, by rw [hrender]; decide⟩

end Soql.Filter
