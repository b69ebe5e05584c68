import Mathlib.Data.List.Infix
import Mathlib.Data.List.Forall2

/-! SQLite's LIKE with an escape character: `%` stands for any text, `_` for one character, and
the letters of ASCII match without regard to their case. -/
namespace Like

def lower (c : Char) : Char := if 'A' ≤ c ∧ c ≤ 'Z' then Char.ofNat (c.toNat + 32) else c

/- `X LIKE pattern ESCAPE escape`. -/
def accepts (escape : Char) : List Char → List Char → Bool
  | [], s => s.isEmpty
  | c :: pattern, s =>
    if c = '%' then s.tails.any (accepts escape pattern)
    else if c = escape then
      match pattern, s with
      | d :: rest, e :: t => lower d = lower e && accepts escape rest t
      | _, _ => false
    else
      match s with
      | [] => false
      | e :: t => (c = '_' || lower c = lower e) && accepts escape pattern t

/- `value.replace(c, escape + c)`. -/
def escapeOne (escape c : Char) (s : List Char) : List Char :=
  s.flatMap fun d => if d = c then [escape, c] else [d]

/- The text with its wildcards and escapes escaped. -/
def escaped (escape : Char) (s : List Char) : List Char :=
  escapeOne escape '_' (escapeOne escape '%' (escapeOne escape escape s))

/-- The text contains what is looked for, up to the case of ASCII letters. -/
def Contains (wanted s : List Char) : Prop := wanted.map lower <:+: s.map lower

instance (wanted s : List Char) : Decidable (Contains wanted s) :=
  inferInstanceAs (Decidable (_ <:+: _))

section Escaping
variable {escape : Char}

theorem accepts_percent (pattern s : List Char) :
    accepts escape ('%' :: pattern) s = s.tails.any (accepts escape pattern) := by
  rw [accepts.eq_def]
  simp

theorem accepts_escape (hpercent : escape ≠ '%') (d e : Char) (pattern t : List Char) :
    accepts escape (escape :: d :: pattern) (e :: t) =
      (decide (lower d = lower e) && accepts escape pattern t) := by
  rw [accepts.eq_def]
  simp [hpercent]

theorem accepts_plain {c : Char} (hpercent : c ≠ '%') (hescape : c ≠ escape) (e : Char)
    (pattern t : List Char) :
    accepts escape (c :: pattern) (e :: t) =
      ((decide (c = '_') || decide (lower c = lower e)) && accepts escape pattern t) := by
  rw [accepts.eq_def]
  simp [hpercent, hescape]

theorem accepts_cons_nil {c : Char} (h : c ≠ '%') (pattern : List Char) :
    accepts escape (c :: pattern) [] = false := by
  rw [accepts.eq_def]
  simp only [if_neg h]
  split <;> cases pattern <;> rfl

theorem escaped_cons (hpercent : escape ≠ '%') (hunderscore : escape ≠ '_') (c : Char)
    (s : List Char) :
    escaped escape (c :: s) =
      (if c = escape ∨ c = '%' ∨ c = '_' then [escape, c] else [c]) ++ escaped escape s := by
  have hne : ('%' : Char) ≠ '_' := by decide
  by_cases hescape : c = escape
  · subst hescape
    simp [escaped, escapeOne, hpercent, hunderscore]
  · by_cases hp : c = '%'
    · subst hp
      simp [escaped, escapeOne, hescape, hne, hunderscore]
    · by_cases hu : c = '_'
      · subst hu
        simp [escaped, escapeOne, hescape, hp]
      · simp [escaped, escapeOne, hescape, hp, hu]

/-- An escaped text, and then a pattern: the text stands there, and the rest matches. -/
theorem accepts_escaped (hpercent : escape ≠ '%') (hunderscore : escape ≠ '_')
    (wanted pattern s : List Char) :
    accepts escape (escaped escape wanted ++ pattern) s = true ↔
      ∃ found rest, s = found ++ rest ∧ found.map lower = wanted.map lower ∧
        accepts escape pattern rest = true := by
  induction wanted generalizing s with
  | nil => simp [escaped, escapeOne]
  | cons c wanted ih =>
    have hstep : accepts escape (escaped escape (c :: wanted) ++ pattern) s = true ↔
        ∃ e t, s = e :: t ∧ lower c = lower e ∧
          accepts escape (escaped escape wanted ++ pattern) t = true := by
      rw [escaped_cons hpercent hunderscore]
      by_cases hspecial : c = escape ∨ c = '%' ∨ c = '_'
      · rw [if_pos hspecial]
        cases s with
        | nil => simp [accepts_cons_nil hpercent]
        | cons e t => simp [accepts_escape hpercent]
      · rw [if_neg hspecial]
        simp only [not_or] at hspecial
        cases s with
        | nil => simp [accepts_cons_nil hspecial.2.1]
        | cons e t => simp [accepts_plain hspecial.2.1 hspecial.1, hspecial.2.2]
    rw [hstep]
    constructor
    · rintro ⟨e, t, rfl, hlower, hmatch⟩
      obtain ⟨found, rest, rfl, hfound, hrest⟩ := (ih t).mp hmatch
      exact ⟨e :: found, rest, rfl, by simp [hfound, hlower], hrest⟩
    · rintro ⟨found, rest, rfl, hfound, hrest⟩
      cases found with
      | nil => simp at hfound
      | cons e found =>
        simp only [List.map_cons, List.cons.injEq] at hfound
        exact ⟨e, found ++ rest, rfl, hfound.1.symm, (ih _).mpr ⟨found, rest, rfl, hfound.2, hrest⟩⟩

/-- A text between two `%` is looked for anywhere, none of its characters being special. -/
theorem accepts_between (hpercent : escape ≠ '%') (hunderscore : escape ≠ '_')
    (wanted s : List Char) :
    accepts escape ('%' :: escaped escape wanted ++ ['%']) s = true ↔ Contains wanted s := by
  have hany : ∀ t : List Char, accepts escape ['%'] t = true := by
    intro t
    rw [accepts_percent, List.any_eq_true]
    exact ⟨[], by simp, rfl⟩
  have hfirst : accepts escape ('%' :: escaped escape wanted ++ ['%']) s = true ↔
      ∃ t, t <:+ s ∧ accepts escape (escaped escape wanted ++ ['%']) t = true := by
    rw [List.cons_append, accepts_percent, List.any_eq_true]
    simp only [List.mem_tails]
  rw [hfirst]
  constructor
  · rintro ⟨t, ⟨before, rfl⟩, hmatch⟩
    obtain ⟨found, rest, rfl, hfound, -⟩ := (accepts_escaped hpercent hunderscore _ _ _).mp hmatch
    exact ⟨before.map lower, rest.map lower, by simp [hfound]⟩
  · rintro ⟨before, rest, h⟩
    obtain ⟨front, tail, rfl, hfront, htail⟩ := List.map_eq_append_iff.mp h.symm
    obtain ⟨ahead, found, rfl, -, hfound⟩ := List.map_eq_append_iff.mp hfront
    refine ⟨found ++ tail, ⟨ahead, by simp⟩, ?_⟩
    exact (accepts_escaped hpercent hunderscore _ _ _).mpr ⟨found, tail, rfl, hfound, hany tail⟩

end Escaping
end Like
