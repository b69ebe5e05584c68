import FrameNest.Text.Plain
import Mathlib.Data.List.Infix

/-! `unicodedata.normalize("NFC", ..)`, by what its documentation promises. -/
namespace Plain

/-- Normalization Form C. -/
structure Normalizer where
  nfc : List Char → List Char
  nfc_nfc : ∀ s, nfc (nfc s) = nfc s
  /-- The form is closed under substrings. -/
  nfc_infix : ∀ s t, t <:+: s → nfc s = s → nfc t = t
  /-- White space neither composes nor reorders with what stands beside it. -/
  nfc_space : ∀ a w b, isSpace w = true → nfc (a ++ w :: b) = nfc a ++ nfc [w] ++ nfc b
  nfc_ascii : ∀ s, (∀ c ∈ s, c.toNat < 128) → nfc s = s

namespace Normalizer
variable (n : Normalizer)

/- The normalizer of a world without any other text. -/
def identity : Normalizer where
  nfc s := s
  nfc_nfc _ := rfl
  nfc_infix _ _ _ _ := rfl
  nfc_space a w b _ := by simp
  nfc_ascii _ _ := rfl

variable {n}

theorem nfc_nil : n.nfc [] = [] := n.nfc_ascii [] (by simp)

theorem nfc_blank : n.nfc [' '] = [' '] := by
  apply n.nfc_ascii
  intro c hc
  rw [List.mem_singleton.mp hc]
  decide

/-- Two texts in the form, with a space between them, are in the form. -/
theorem nfc_join {a b : List Char} (ha : n.nfc a = a) (hb : n.nfc b = b) :
    n.nfc (a ++ ' ' :: b) = a ++ ' ' :: b := by
  rw [n.nfc_space a ' ' b (by decide), ha, hb, nfc_blank]
  simp

end Normalizer

/- `re.sub(r"\s+", " ", s)`. -/
def collapse : List Char → List Char
  | [] => []
  | c :: rest =>
    if isSpace c = true then
      match rest with
      | [] => [' ']
      | d :: _ => if isSpace d = true then collapse rest else ' ' :: collapse rest
    else c :: collapse rest

theorem collapse_length (s : List Char) : (collapse s).length ≤ s.length := by
  induction s with
  | nil => simp [collapse]
  | cons c rest ih =>
    unfold collapse
    split
    · split
      · simp
      · split
        · simp only [List.length_cons] at ih ⊢
          omega
        · simp only [List.length_cons] at ih ⊢
          omega
    · simp only [List.length_cons]
      omega

/-- What is left of white space is the space; everything else is kept. -/
theorem mem_collapse {s : List Char} {c : Char} (h : c ∈ collapse s) :
    c = ' ' ∨ (c ∈ s ∧ isSpace c = false) := by
  induction s with
  | nil => cases h
  | cons d rest ih =>
    unfold collapse at h
    split at h
    · split at h
      · exact .inl (List.mem_singleton.mp h)
      · split at h
        · rcases ih h with hspace | ⟨hmem, hnot⟩
          · exact .inl hspace
          · exact .inr ⟨List.mem_cons_of_mem _ hmem, hnot⟩
        · rcases List.mem_cons.mp h with hspace | h
          · exact .inl hspace
          · rcases ih h with hspace | ⟨hmem, hnot⟩
            · exact .inl hspace
            · exact .inr ⟨List.mem_cons_of_mem _ hmem, hnot⟩
    · rename_i hd
      rcases List.mem_cons.mp h with rfl | h
      · exact .inr ⟨List.mem_cons_self, by simpa using hd⟩
      · rcases ih h with hspace | ⟨hmem, hnot⟩
        · exact .inl hspace
        · exact .inr ⟨List.mem_cons_of_mem _ hmem, hnot⟩

theorem nfc_collapse_after {n : Normalizer} (s p : List Char) (h : n.nfc (p ++ s) = p ++ s) :
    n.nfc (p ++ collapse s) = p ++ collapse s := by
  induction s generalizing p with
  | nil => exact h
  | cons c rest ih =>
    have hp : n.nfc p = p := n.nfc_infix _ p (List.infix_append' [] p _) h
    have hrest : n.nfc rest = rest :=
      n.nfc_infix _ rest (List.IsSuffix.isInfix ⟨p ++ [c], by simp⟩) h
    unfold collapse
    split
    · split
      · exact Normalizer.nfc_join hp Normalizer.nfc_nil
      · rename_i d r
        split
        · rename_i hspace
          -- The white space that is left out stood before white space.
          have hd : n.nfc [d] = [d] := n.nfc_infix _ [d] (List.infix_append' [] [d] r) hrest
          have hr : n.nfc r = r := n.nfc_infix _ r (List.IsSuffix.isInfix ⟨[d], rfl⟩) hrest
          apply ih
          rw [n.nfc_space p d r hspace, hp, hd, hr]
          simp
        · exact Normalizer.nfc_join hp (ih [] hrest)
    · have hnext := ih (p ++ [c]) (by simpa using h)
      simpa using hnext

/-- Collapsing white space keeps the form. -/
theorem nfc_collapse {n : Normalizer} {s : List Char} (h : n.nfc s = s) :
    n.nfc (collapse s) = collapse s := nfc_collapse_after s [] h

end Plain
