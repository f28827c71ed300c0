/-!
# Equality up to ASCII case

Asset names and menu scenes are compared with the twenty-six ASCII letters folded and every other
character taken as it is.
-/

namespace LootSpawn.Text

/-- Equal once the ASCII letters are in lower case. -/
def sameAsciiCase (s t : List Char) : Bool :=
  s.map Char.toLower == t.map Char.toLower

theorem sameAsciiCase_iff (s t : List Char) :
    sameAsciiCase s t = true ↔ s.map Char.toLower = t.map Char.toLower := by
  simp [sameAsciiCase]

/-- What follows `head` in a text that begins with it up to ASCII case. -/
def afterAsciiCase? : List Char → List Char → Option (List Char)
  | [], text => some text
  | _ :: _, [] => none
  | h :: head, c :: text =>
      if h.toLower == c.toLower then afterAsciiCase? head text else none

/-- The text is a spelling of `head` followed by the rest. -/
theorem afterAsciiCase?_eq_some_iff (head text rest : List Char) :
    afterAsciiCase? head text = some rest ↔
      ∃ start, text = start ++ rest ∧ sameAsciiCase start head = true := by
  induction head generalizing text with
  | nil =>
      constructor
      · intro h
        refine ⟨[], ?_, rfl⟩
        simpa [afterAsciiCase?] using h
      · rintro ⟨start, rfl, hsame⟩
        simp only [sameAsciiCase_iff, List.map_nil, List.map_eq_nil_iff] at hsame
        simp [afterAsciiCase?, hsame]
  | cons h head ih =>
      cases text with
      | nil =>
          constructor
          · intro hnone
            simp [afterAsciiCase?] at hnone
          · rintro ⟨start, hnil, hsame⟩
            obtain ⟨rfl, -⟩ := List.append_eq_nil_iff.mp hnil.symm
            simp [sameAsciiCase_iff] at hsame
      | cons c text =>
          simp only [afterAsciiCase?, sameAsciiCase_iff] at ih ⊢
          split
          next hc =>
            rw [ih]
            constructor
            · rintro ⟨start, rfl, hsame⟩
              refine ⟨c :: start, rfl, ?_⟩
              simp [hsame, (beq_iff_eq.mp hc).symm]
            · rintro ⟨start, heq, hsame⟩
              cases start with
              | nil => simp at hsame
              | cons d start =>
                  simp only [List.cons_append, List.cons.injEq] at heq
                  simp only [List.map_cons, List.cons.injEq] at hsame
                  exact ⟨start, heq.2, hsame.2⟩
          next hc =>
            constructor
            · intro hnone
              cases hnone
            · rintro ⟨start, heq, hsame⟩
              cases start with
              | nil => simp at hsame
              | cons d start =>
                  simp only [List.cons_append, List.cons.injEq] at heq
                  simp only [List.map_cons, List.cons.injEq] at hsame
                  rw [heq.1, hsame.1] at hc
                  simp at hc

end LootSpawn.Text
