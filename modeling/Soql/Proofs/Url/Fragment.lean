/-
# The fragment of an address

The fragment of an address is all that comes after its first number sign. When that is made of
visible ASCII characters, neither trimming the address nor cleaning it touches the fragment, and it
is read as it was written, whatever stands before it.

Key theorems: `Url.exists_clean_trim`, `Url.readFragment_eq`.
-/
import Soql.Proofs.Outcome
import Soql.Proofs.Text.Trim
import Soql.Url.Basic

namespace Soql.Url

variable {base f t : List Char}

/-- A visible ASCII character. -/
def IsVisible (c : Char) : Prop := 33 ≤ c.toNat ∧ c.toNat < 0x80

theorem IsVisible.not_isBlank {c : Char} (h : IsVisible c) : Text.isBlank c = false := by
  obtain ⟨hle, hlt⟩ := h
  simp only [Text.isBlank, if_pos hlt, Bool.or_eq_false_iff, beq_eq_false_iff_ne,
    Bool.and_eq_false_iff, decide_eq_false_iff_not]
  omega

theorem IsVisible.ne {c d : Char} (h : IsVisible c) (hd : d.toNat ≤ 32) : c ≠ d := by
  rintro rfl
  have := h.1
  omega

/-- What comes from a character on that stops the dropping is kept. -/
theorem dropWhile_append_cons (p : Char → Bool) {c : Char} (hc : p c = false) (a b : List Char) :
    ∃ a', (a ++ c :: b).dropWhile p = a' ++ c :: b ∧ a' <:+ a := by
  refine ⟨a.dropWhile p, ?_, List.dropWhile_suffix p⟩
  rw [List.dropWhile_append]
  split
  · rename_i hnil
    rw [List.isEmpty_iff.1 hnil, List.nil_append,
      List.dropWhile_cons_of_neg (by rw [hc]; decide)]
  · rfl

/-- A fragment that can be seen is still there when the address is trimmed and clean. -/
theorem exists_clean_trim (hbase : '#' ∉ base) (hf : ∀ c ∈ f, IsVisible c) :
    ∃ base', clean (Text.trim (base ++ '#' :: f)) = base' ++ '#' :: f ∧ '#' ∉ base' := by
  have htail : ∀ c ∈ '#' :: f, IsVisible c := List.forall_mem_cons.2 ⟨⟨by decide, by decide⟩, hf⟩
  obtain ⟨a, d, had⟩ : ∃ a d, '#' :: f = a ++ [d] := by
    rcases List.eq_nil_or_concat ('#' :: f) with h | ⟨a, d, h⟩
    · cases h
    · exact ⟨a, d, by rw [h, List.concat_eq_append]⟩
  have hd : IsVisible d := htail d (by rw [had]; simp)
  have hblank : Text.isBlank '#' = false := by decide
  have hcontrol : decide ('#'.toNat ≤ 32) = false := by decide
  obtain ⟨b₁, hstart, hb₁⟩ := dropWhile_append_cons Text.isBlank hblank base f
  obtain ⟨b₂, hclean, hb₂⟩ := dropWhile_append_cons (fun c => c.toNat ≤ 32) hcontrol b₁ f
  have htrim : Text.trim (base ++ '#' :: f) = b₁ ++ '#' :: f := by
    rw [Text.trim, Text.trimStart, hstart, had, ← List.append_assoc,
      Text.trimEnd_append_singleton hd.not_isBlank]
  have hend : ((b₂ ++ '#' :: f).reverse.dropWhile (·.toNat ≤ 32)).reverse = b₂ ++ '#' :: f := by
    have hneg : ¬decide (d.toNat ≤ 32) = true := by
      have hle := hd.1
      rw [decide_eq_true_iff]
      omega
    rw [had, ← List.append_assoc, List.reverse_concat, List.dropWhile_cons_of_neg (by exact hneg),
      List.reverse_cons, List.reverse_reverse]
  have hkeep : ('#' :: f).filter (fun c => !(c = '\t' || c = '\n' || c = '\r')) = '#' :: f := by
    refine List.filter_eq_self.2 fun c hc => ?_
    have hc := htail c hc
    simp [hc.ne (d := '\t') (by decide), hc.ne (d := '\n') (by decide),
      hc.ne (d := '\r') (by decide)]
  refine ⟨b₂.filter fun c => !(c = '\t' || c = '\n' || c = '\r'), ?_, fun hmem => ?_⟩
  · rw [htrim, clean, hclean, hend, List.filter_append, hkeep]
  · exact hbase (hb₁.mem (hb₂.mem (List.mem_filter.1 hmem).1))

/-- The number sign is in the text after the colon. -/
theorem rest_of_readScheme? {scheme : String} {rest : List Char}
    (h : readScheme? (base ++ '#' :: f) = some (scheme, rest)) (hbase : '#' ∉ base) :
    ∃ r, rest = r ++ '#' :: f ∧ '#' ∉ r := by
  unfold readScheme? at h
  split at h
  · cases h
  split at h
  · split at h
    · rename_i r hdrop
      cases h
      have hsign : isSchemeChar '#' = false := by decide
      obtain ⟨a, ha, hsuffix⟩ := dropWhile_append_cons isSchemeChar hsign base f
      rw [ha] at hdrop
      cases a with
      | nil => cases hdrop
      | cons d a =>
        obtain ⟨rfl, rfl⟩ := List.cons.inj hdrop
        exact ⟨a, rfl, fun hmem => hbase (hsuffix.mem (List.mem_cons_of_mem _ hmem))⟩
    · cases h
  · cases h

/-- A fragment that can be seen is read as it was written. -/
theorem readFragment_eq (hbase : '#' ∉ base) (hf : ∀ c ∈ f, IsVisible c)
    (h : readFragment (Text.trim (base ++ '#' :: f)) = .ok t) : t = f := by
  obtain ⟨base', hclean, hbase'⟩ := exists_clean_trim hbase hf
  rw [readFragment, hclean] at h
  split at h
  · cases h
  · rename_i scheme rest hscheme
    obtain ⟨r, rfl, hr⟩ := rest_of_readScheme? hscheme hbase'
    obtain ⟨-, -, ht⟩ := bind_eq_ok.1 h
    have hdrop : (r ++ '#' :: f).dropWhile (· != '#') = '#' :: f := by
      rw [List.dropWhile_append_of_pos fun c hc => by simpa using fun hh : c = '#' => hr (hh ▸ hc)]
      rfl
    rw [hdrop] at ht
    exact (Except.ok.inj ht).symm

end Soql.Url
