import FrameNest.Text.CodePoints
import FrameNest.Text.Url

/-! `urllib.parse.parse_qsl` with `keep_blank_values` and `strict_parsing`, over the characters of
a query, and how the fields of a query are written. -/
namespace Url

section Unquoting

def hexDigit? (c : Char) : Option Nat :=
  if '0' ≤ c ∧ c ≤ '9' then some (c.toNat - 48)
  else if 'a' ≤ c ∧ c ≤ 'f' then some (c.toNat - 87)
  else if 'A' ≤ c ∧ c ≤ 'F' then some (c.toNat - 55)
  else none

/- `unquote_to_bytes`; a `%` that no two digits follow stays as it is. -/
def unquoteToBytes : List Char → Utf8.Bytes
  | '%' :: a :: b :: rest =>
    match hexDigit? a, hexDigit? b with
    | some x, some y => (16 * x + y).toUInt8 :: unquoteToBytes rest
    | _, _ => 0x25 :: unquoteToBytes (a :: b :: rest)
  | c :: rest => c.toNat.toUInt8 :: unquoteToBytes rest
  | [] => []

def unquoteRun (run : List Char) : List Char := Utf8.decodeFrom none (unquoteToBytes run)

/- Only what is ASCII is unquoted, each stretch of it for itself. -/
def unquoteParts : List Char → List Char → List Char
  | run, [] => unquoteRun run
  | run, c :: rest =>
    if isAscii c then unquoteParts (run ++ [c]) rest
    else unquoteRun run ++ c :: unquoteParts [] rest

/- `unquote`, with replacement of what is not UTF-8. -/
def unquote (s : List Char) : List Char := if '%' ∈ s then unquoteParts [] s else s

/- `unquote_plus`. -/
def unquotePlus (s : List Char) : List Char := unquote (s.map fun c => if c = '+' then ' ' else c)

theorem unquotePlus_plain {s : List Char} (h : '%' ∉ s ∧ '+' ∉ s) : unquotePlus s = s := by
  have hsame : (s.map fun c => if c = '+' then ' ' else c) = s := by
    refine (List.map_congr_left fun c hc => ?_).trans (List.map_id s)
    have hne : c ≠ '+' := by
      rintro rfl
      exact h.2 hc
    simp [hne]
  rw [unquotePlus, hsame, unquote, if_neg h.1]

end Unquoting

section Fields

abbrev Field : Type := List Char × List Char

/- One field of the query; `strict_parsing` wants it to have an equals sign. -/
def readField (text : List Char) : Option Field :=
  if '=' ∈ text then some (unquotePlus (before '=' text), unquotePlus (after '=' text)) else none

/- `parse_qsl`; `none` is its `ValueError`. -/
def parseQsl (query : List Char) (maxNumFields : Nat) : Option (List Field) :=
  if query = [] then some []
  else if maxNumFields < 1 + query.count '&' then none
  else (query.splitOn '&').mapM readField

/-- A key and a value as they can be written in a query. -/
def Writable (f : Field) : Prop := '=' ∉ f.1 ∧ '&' ∉ f.1 ∧ '&' ∉ f.2

def fieldText (f : Field) : List Char := f.1 ++ '=' :: f.2

def queryText (fields : List Field) : List Char := List.intercalate ['&'] (fields.map fieldText)

def decoded (f : Field) : Field := (unquotePlus f.1, unquotePlus f.2)

variable {fields : List Field} {query : List Char} {maxNumFields : Nat}

theorem splitOn_length (l : List Char) (c : Char) : (l.splitOn c).length = l.count c + 1 := by
  induction l with
  | nil => rfl
  | cons d rest ih =>
    rw [List.splitOn_cons_eq_if_modifyHead, List.count_cons]
    split <;> simp_all

theorem readField_text {f : Field} (h : Writable f) : readField (fieldText f) = some (decoded f) := by
  obtain ⟨hbefore, hafter⟩ := before_append f.2 h.1
  rw [readField, if_pos (by simp [fieldText]), fieldText, hbefore, hafter]
  rfl

theorem not_mem_fieldText {f : Field} (h : Writable f) : '&' ∉ fieldText f := by
  simp [fieldText, h.2.1, h.2.2]

/-- Fields that are written one after another are read as they decode. -/
theorem parseQsl_queryText (h : ∀ f ∈ fields, Writable f) (hshort : fields.length ≤ maxNumFields) :
    parseQsl (queryText fields) maxNumFields = some (fields.map decoded) := by
  cases hfields : fields with
  | nil => rfl
  | cons f rest =>
    rw [← hfields]
    have hsplit : (queryText fields).splitOn '&' = fields.map fieldText := by
      refine List.splitOn_intercalate '&' ?_ (by simp [hfields])
      intro l hl
      obtain ⟨g, hg, rfl⟩ := List.mem_map.mp hl
      exact not_mem_fieldText (h g hg)
    have hcount : 1 + (queryText fields).count '&' = fields.length := by
      have hlength := splitOn_length (queryText fields) '&'
      rw [hsplit, List.length_map] at hlength
      omega
    have hne : queryText fields ≠ [] := by
      intro hnil
      rw [hnil] at hsplit
      have hone : fields.map fieldText = [[]] := hsplit.symm
      rw [hfields] at hone
      simp [fieldText] at hone
    have hread : ∀ l : List Field, (∀ g ∈ l, Writable g) →
        (l.map fieldText).mapM readField = some (l.map decoded) := by
      intro l hl
      induction l with
      | nil => rfl
      | cons g l ih =>
        rw [List.map_cons, List.mapM_cons, readField_text (hl g List.mem_cons_self),
          ih fun k hk => hl k (List.mem_cons_of_mem g hk)]
        rfl
    rw [parseQsl, if_neg hne, if_neg (by omega), hsplit, hread fields h]

/-- What is read as fields is written as such fields. -/
theorem parseQsl_some {pairs : List Field} (h : parseQsl query maxNumFields = some pairs) :
    ∃ fields, query = queryText fields ∧ (∀ f ∈ fields, Writable f) ∧
      fields.length ≤ maxNumFields ∧ pairs = fields.map decoded := by
  unfold parseQsl at h
  split at h
  · rename_i hnil
    cases h
    exact ⟨[], hnil, by simp, Nat.zero_le _, rfl⟩
  · split at h
    · cases h
    · rename_i hne hcount
      have hcut : ∀ (parts : List (List Char)) (pairs : List Field), (∀ p ∈ parts, '&' ∉ p) →
          parts.mapM readField = some pairs →
          ∃ fields : List Field, parts = fields.map fieldText ∧ (∀ f ∈ fields, Writable f) ∧
            pairs = fields.map decoded := by
        intro parts
        induction parts with
        | nil =>
          intro pairs _ hpairs
          cases hpairs
          exact ⟨[], rfl, by simp, rfl⟩
        | cons p parts ih =>
          intro pairs hplain hpairs
          simp only [List.mapM_cons, Option.bind_eq_bind, Option.bind_eq_some_iff, Option.pure_def,
            Option.some.injEq] at hpairs
          obtain ⟨pair, hpair, others, hothers, rfl⟩ := hpairs
          obtain ⟨fields, rfl, hwritable, rfl⟩ :=
            ih others (fun q hq => hplain q (List.mem_cons_of_mem p hq)) hothers
          unfold readField at hpair
          split at hpair
          · rename_i hequals
            cases hpair
            obtain ⟨hwhole, hkey⟩ := before_after hequals
            have hp := hplain p List.mem_cons_self
            rw [hwhole, List.mem_append, List.mem_cons, not_or, not_or] at hp
            refine ⟨(before '=' p, after '=' p) :: fields, ?_, ?_, rfl⟩
            · rw [List.map_cons, fieldText, ← hwhole]
            · rw [List.forall_mem_cons]
              exact ⟨⟨hkey, hp.1, hp.2.2⟩, hwritable⟩
          · cases hpair
      obtain ⟨fields, hparts, hwritable, hpairs⟩ :=
        hcut (query.splitOn '&') pairs (fun p hp => Plain.not_mem_splitOn hp) h
      refine ⟨fields, ?_, hwritable, ?_, hpairs⟩
      · rw [queryText, ← hparts, List.intercalate_splitOn]
      · have hlength := splitOn_length query '&'
        rw [hparts, List.length_map] at hlength
        omega

end Fields
end Url
