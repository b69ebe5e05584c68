import FrameNest.Text.Plain

/-! `urllib.parse.urlsplit`, over the characters of a URL. -/
namespace Url
open Plain

def isAscii (c : Char) : Bool := c.toNat < 128

/-- The tables the splitting rests on: `str.lower`, and whether an authority is refused, for its
brackets or for what NFKC makes of it. -/
structure Tables where
  lower : List Char → List Char
  refuses : List Char → Bool
  lower_ascii : ∀ s, s.all isAscii = true → lower s = s.map Char.toLower
  /-- Outside ASCII only the Kelvin sign has a lower case inside. -/
  lower_kelvin : ∀ s, (∀ c ∈ lower s, isAscii c = true ∧ c ≠ 'k') → s.all isAscii = true
  refuses_plain : ∀ s, s.all (fun c => isAscii c && c ≠ '[' && c ≠ ']') = true → refuses s = false

/- `partition(c)`: what stands before the first `c`, and after it. -/
def before (c : Char) (l : List Char) : List Char := l.takeWhile (· ≠ c)
def after (c : Char) (l : List Char) : List Char := (l.dropWhile (· ≠ c)).drop 1

structure SplitResult where
  scheme : List Char
  netloc : List Char
  path : List Char
  query : List Char
  fragment : List Char

def schemeChar (c : Char) : Bool := c.isAlphanum || c = '+' || c = '-' || c = '.'

/- The scheme in lower case, and what follows its colon. -/
def splitScheme (url : List Char) : List Char × List Char :=
  let name := before ':' url
  if ':' ∈ url ∧ name.head?.any Char.isAlpha = true ∧ name.all schemeChar = true then
    (name.map Char.toLower, after ':' url)
  else ([], url)

def inAuthority (c : Char) : Bool := c ≠ '/' && c ≠ '?' && c ≠ '#'

def splitAuthority : List Char → List Char × List Char
  | '/' :: '/' :: rest => (rest.takeWhile inAuthority, rest.dropWhile inAuthority)
  | url => ([], url)

/-- `urlsplit`; `none` is the `ValueError` of an authority that is refused. -/
def split (t : Tables) (url : List Char) : Option SplitResult :=
  let url := (url.dropWhile fun c => c.toNat ≤ 32).filter fun c => c ≠ '\t' && c ≠ '\r' && c ≠ '\n'
  let authority := splitAuthority (splitScheme url).2
  if t.refuses authority.1 then none
  else
    let rest := before '#' authority.2
    some ⟨(splitScheme url).1, authority.1, before '?' rest, after '?' rest,
      after '#' authority.2⟩

namespace SplitResult
variable (r : SplitResult)

/- The parts of the authority before and after its last `@`. -/
def hostinfo : List Char := (r.netloc.reverse.takeWhile (· ≠ '@')).reverse
def userinfo : Option (List Char) :=
  if '@' ∈ r.netloc then some (r.netloc.take (r.netloc.length - r.hostinfo.length - 1)) else none

def username : Option (List Char) := r.userinfo.map (before ':')
def password : Option (List Char) :=
  r.userinfo.bind fun info => if ':' ∈ info then some (after ':' info) else none

/- The host and the port as they are written; an empty port is none. -/
def hostPort : List Char × List Char :=
  if '[' ∈ r.hostinfo then
    (before ']' (after '[' r.hostinfo), after ':' (after ']' (after '[' r.hostinfo)))
  else (before ':' r.hostinfo, after ':' r.hostinfo)

def hostname (t : Tables) : Option (List Char) :=
  if r.hostPort.1 = [] then none
  else some (t.lower (before '%' r.hostPort.1) ++ r.hostPort.1.dropWhile (· ≠ '%'))

def digits (l : List Char) : Nat := l.foldl (fun n c => n * 10 + (c.toNat - 48)) 0

/- `port`; the outer `none` is a `ValueError`. -/
def port : Option (Option Nat) :=
  if r.hostPort.2 = [] then some none
  else if r.hostPort.2.all Char.isDigit && digits r.hostPort.2 ≤ 65535 then
    some (some (digits r.hostPort.2))
  else none

end SplitResult

/-! Cutting a list at a character. -/

theorem before_append {c : Char} {a : List Char} (b : List Char) (h : c ∉ a) :
    before c (a ++ c :: b) = a ∧ after c (a ++ c :: b) = b := by
  have ha : ∀ x ∈ a, decide (x ≠ c) = true := fun x hx => by
    simpa using fun heq : x = c => h (heq ▸ hx)
  constructor
  · rw [before, List.takeWhile_append_of_pos ha]
    simp
  · rw [after, List.dropWhile_append_of_pos ha]
    simp

theorem before_none {c : Char} {a : List Char} (h : c ∉ a) : before c a = a ∧ after c a = [] := by
  have ha : ∀ x ∈ a, decide (x ≠ c) = true := fun x hx => by
    simpa using fun heq : x = c => h (heq ▸ hx)
  constructor
  · exact List.takeWhile_eq_self_iff.mpr ha
  · rw [after, List.dropWhile_eq_nil_iff.mpr ha]
    rfl

/-- A list with the character is what stands before it, the character, and what stands after. -/
theorem before_after {c : Char} {a : List Char} (h : c ∈ a) :
    a = before c a ++ c :: after c a ∧ c ∉ before c a := by
  obtain ⟨x, y, rfl, hx⟩ := List.eq_append_cons_of_mem h
  obtain ⟨hbefore, hafter⟩ := before_append y hx
  rw [hbefore, hafter]
  exact ⟨rfl, hx⟩

/- Nothing after the character, or no such character: the rest is empty. -/
theorem before_of_after_nil {c : Char} {a : List Char} (h : after c a = []) :
    (a = before c a ∨ a = before c a ++ [c]) ∧ c ∉ before c a := by
  by_cases hmem : c ∈ a
  · obtain ⟨hsplit, hnot⟩ := before_after hmem
    rw [h] at hsplit
    exact ⟨.inr hsplit, hnot⟩
  · rw [(before_none hmem).1]
    exact ⟨.inl rfl, hmem⟩

theorem isAlpha_iff {c : Char} : c.isAlpha = true ↔
    (65 ≤ c.toNat ∧ c.toNat ≤ 90) ∨ (97 ≤ c.toNat ∧ c.toNat ≤ 122) := by
  have hupper : c.isUpper = true ↔ 65 ≤ c.toNat ∧ c.toNat ≤ 90 := decide_eq_true_iff
  have hlower : c.isLower = true ↔ 97 ≤ c.toNat ∧ c.toNat ≤ 122 :=
    Bool.and_eq_true_iff.trans (and_congr decide_eq_true_iff decide_eq_true_iff)
  rw [← hupper, ← hlower]
  exact Bool.or_eq_true_iff

theorem toLower_alpha {c : Char} (h : c.toLower.isAlpha = true) : c.isAlpha = true := by
  unfold Char.toLower at h
  split at h
  · rename_i hupper
    exact isAlpha_iff.mpr (.inl hupper)
  · exact h

theorem alpha_scheme {c : Char} (h : c.isAlpha = true) : schemeChar c = true ∧ c ≠ ':' := by
  refine ⟨by simp [schemeChar, Char.isAlphanum, h], fun heq => ?_⟩
  rw [heq] at h
  revert h
  decide

/-! How a URL is written whose fragment is empty, and whose query is `query` or empty. -/

structure WrittenWith (name v netloc path query : List Char) : Prop where
  parts : ∃ scheme asked fragment, v = scheme ++ ':' :: '/' :: '/' ::
    (netloc ++ (path ++ asked ++ fragment)) ∧ scheme.map Char.toLower = name ∧
      ((asked = [] ∧ query = []) ∨ asked = '?' :: query) ∧ (fragment = [] ∨ fragment = ['#'])
  authority : netloc.all inAuthority = true
  rooted : path.head? = some '/'
  plain : '?' ∉ path ∧ '#' ∉ path ∧ '#' ∉ query

structure Written (name v netloc path : List Char) : Prop where
  parts : ∃ scheme query fragment, v = scheme ++ ':' :: '/' :: '/' ::
    (netloc ++ (path ++ query ++ fragment)) ∧ scheme.map Char.toLower = name ∧
      (query = [] ∨ query = ['?']) ∧ (fragment = [] ∨ fragment = ['#'])
  authority : netloc.all inAuthority = true
  rooted : path.head? = some '/'
  plain : '?' ∉ path ∧ '#' ∉ path

theorem written_iff {name v netloc path : List Char} :
    Written name v netloc path ↔ WrittenWith name v netloc path [] := by
  constructor
  · rintro ⟨⟨scheme, query, fragment, hv, hscheme, hquery, hfragment⟩, hall, hrooted, hplain⟩
    exact ⟨⟨scheme, query, fragment, hv, hscheme, by simpa using hquery, hfragment⟩, hall, hrooted,
      by simpa using hplain⟩
  · rintro ⟨⟨scheme, asked, fragment, hv, hscheme, hasked, hfragment⟩, hall, hrooted, hplain⟩
    exact ⟨⟨scheme, asked, fragment, hv, hscheme, by simpa using hasked, hfragment⟩, hall, hrooted,
      by simpa using hplain⟩

/- The URL begins with no space, and holds no character that is removed. -/
def Tight (v : List Char) : Prop :=
  (v.head?.all fun c => 32 < c.toNat) = true ∧ ∀ c ∈ v, c ≠ '\t' ∧ c ≠ '\r' ∧ c ≠ '\n'

theorem Tight.kept {v : List Char} (h : Tight v) :
    ((v.dropWhile fun c => c.toNat ≤ 32).filter fun c => c ≠ '\t' && c ≠ '\r' && c ≠ '\n') = v := by
  have hdrop : (v.dropWhile fun c => c.toNat ≤ 32) = v := by
    cases v with
    | nil => rfl
    | cons c rest =>
      have hc : 32 < c.toNat := by simpa using h.1
      exact List.dropWhile_cons_of_neg (by simpa using hc)
  rw [hdrop]
  exact List.filter_eq_self.mpr fun c hc => by simpa [and_assoc] using h.2 c hc

theorem splitScheme_written {scheme rest : List Char} (hne : scheme ≠ [])
    (halpha : scheme.all Char.isAlpha = true) :
    splitScheme (scheme ++ ':' :: rest) = (scheme.map Char.toLower, rest) := by
  have hall : ∀ c ∈ scheme, c.isAlpha = true := by simpa using halpha
  have hcolon : ':' ∉ scheme := fun hmem => (alpha_scheme (hall _ hmem)).2 rfl
  obtain ⟨hbefore, hafter⟩ := before_append rest hcolon
  have hhead : scheme.head?.any Char.isAlpha = true := by
    cases scheme with
    | nil => exact absurd rfl hne
    | cons c rest => exact hall c List.mem_cons_self
  have hchars : scheme.all schemeChar = true := by
    rw [List.all_eq_true]
    exact fun c hc => (alpha_scheme (hall c hc)).1
  unfold splitScheme
  rw [hbefore, hafter]
  exact if_pos ⟨by simp, hhead, hchars⟩

theorem splitAuthority_written {netloc rest : List Char} (h : netloc.all inAuthority = true)
    (hrest : rest.head? = some '/') :
    splitAuthority ('/' :: '/' :: (netloc ++ rest)) = (netloc, rest) := by
  have hall : ∀ c ∈ netloc, inAuthority c = true := by simpa using h
  obtain ⟨tail, rfl⟩ : ∃ tail, rest = '/' :: tail := by
    cases rest with
    | nil => cases hrest
    | cons c tail =>
      cases hrest
      exact ⟨tail, rfl⟩
  have hslash : inAuthority '/' = false := by decide
  rw [splitAuthority, List.takeWhile_append_of_pos hall, List.dropWhile_append_of_pos hall]
  simp [hslash]

variable {t : Tables} {name v netloc path query : List Char}

/-- A URL that is so written is split so. -/
theorem WrittenWith.split (h : WrittenWith name v netloc path query) (hname : name ≠ [])
    (halpha : name.all Char.isAlpha = true) (htight : Tight v) (hrefuses : t.refuses netloc = false) :
    split t v = some ⟨name, netloc, path, query, []⟩ := by
  obtain ⟨scheme, asked, fragment, hv, hscheme, hasked, hfragment⟩ := h.parts
  have hne : scheme ≠ [] := by
    intro hnil
    rw [hnil] at hscheme
    exact hname hscheme.symm
  have hletters : scheme.all Char.isAlpha = true := by
    rw [← hscheme] at halpha
    simp only [List.all_map, List.all_eq_true, Function.comp_apply] at halpha ⊢
    exact fun c hc => toLower_alpha (halpha c hc)
  have hrooted : (path ++ asked ++ fragment).head? = some '/' := by
    have hhead := h.rooted
    cases path with
    | nil => cases hhead
    | cons c rest => exact hhead
  have hhash : '#' ∉ path ++ asked := by
    rcases hasked with ⟨rfl, -⟩ | rfl <;> simp [h.plain.2]
  have hfirst : before '#' (path ++ asked ++ fragment) = path ++ asked ∧
      after '#' (path ++ asked ++ fragment) = [] := by
    rcases hfragment with rfl | rfl
    · rw [List.append_nil]
      exact before_none hhash
    · exact before_append [] hhash
  have hsecond : before '?' (path ++ asked) = path ∧ after '?' (path ++ asked) = query := by
    rcases hasked with ⟨rfl, rfl⟩ | rfl
    · rw [List.append_nil]
      exact before_none h.plain.1
    · exact before_append query h.plain.1
  unfold Url.split
  rw [htight.kept]
  dsimp only
  rw [hv, splitScheme_written hne hletters, splitAuthority_written h.authority hrooted]
  simp only [hrefuses, hfirst, hsecond, hscheme, Bool.false_eq_true, if_false]

theorem Written.split (h : Written name v netloc path) (hname : name ≠ [])
    (halpha : name.all Char.isAlpha = true) (htight : Tight v) (hrefuses : t.refuses netloc = false) :
    split t v = some ⟨name, netloc, path, [], []⟩ :=
  (written_iff.mp h).split hname halpha htight hrefuses

/-- The tables as they are for ASCII text. -/
def asciiTables : Tables where
  lower s := s.map Char.toLower
  refuses s := decide ('[' ∈ s) != decide (']' ∈ s)
  lower_ascii _ _ := rfl
  lower_kelvin s h := by
    rw [List.all_eq_true]
    intro c hc
    have hlower := (h c.toLower (List.mem_map_of_mem hc)).1
    unfold Char.toLower at hlower
    split at hlower
    · rename_i hupper
      have hhigh : c.val.toNat ≤ 90 := hupper.2
      simp only [isAscii, decide_eq_true_eq]
      change c.val.toNat < 128
      omega
    · exact hlower
  refuses_plain s h := by
    have hall : ∀ c ∈ s, c ≠ '[' ∧ c ≠ ']' := by
      intro c hc
      have hplain := List.all_eq_true.mp h c hc
      simp only [Bool.and_eq_true, decide_eq_true_eq] at hplain
      exact ⟨hplain.1.2, hplain.2⟩
    have hopen : '[' ∉ s := fun hmem => (hall _ hmem).1 rfl
    have hclose : ']' ∉ s := fun hmem => (hall _ hmem).2 rfl
    simp [hopen, hclose]

/-- A URL is written in one way only. -/
theorem Written.unique {netloc' path' : List Char} (h : Written name v netloc path)
    (h' : Written name v netloc' path') (hname : name ≠ []) (halpha : name.all Char.isAlpha = true)
    (htight : Tight v) : netloc = netloc' ∧ path = path' := by
  let t : Tables := { asciiTables with refuses := fun _ => false, refuses_plain := fun _ _ => rfl }
  have hsplit : Url.split t v = some ⟨name, netloc, path, [], []⟩ := h.split hname halpha htight rfl
  rw [h'.split hname halpha htight rfl] at hsplit
  cases hsplit
  exact ⟨rfl, rfl⟩

theorem splitScheme_ne {v : List Char} (h : (splitScheme v).1 ≠ []) :
    ∃ scheme, v = scheme ++ ':' :: (splitScheme v).2 ∧
      scheme.map Char.toLower = (splitScheme v).1 := by
  unfold splitScheme at h ⊢
  dsimp only at h ⊢
  split
  · rename_i hvalid
    exact ⟨before ':' v, (before_after hvalid.1).1, rfl⟩
  · rename_i hinvalid
    rw [if_neg hinvalid] at h
    exact absurd rfl h

theorem splitAuthority_ne {v : List Char} (h : (splitAuthority v).1 ≠ []) :
    v = '/' :: '/' :: ((splitAuthority v).1 ++ (splitAuthority v).2) ∧
      (splitAuthority v).1.all inAuthority = true ∧
      ∀ c, (splitAuthority v).2.head? = some c → inAuthority c = false := by
  revert h
  unfold splitAuthority
  split
  · rename_i rest
    intro _
    refine ⟨by simp [List.takeWhile_append_dropWhile], List.all_takeWhile, fun c hc => ?_⟩
    have hnot := List.head?_dropWhile_not inAuthority rest
    rw [hc] at hnot
    simpa using hnot
  · exact fun h => absurd rfl h

/-- What is split into these parts was written so. -/
theorem split_writtenWith {r : SplitResult} (h : split t v = some r) (htight : Tight v)
    (hscheme : r.scheme ≠ []) (hnetloc : r.netloc ≠ []) (hpath : r.path ≠ [])
    (hfragment : r.fragment = []) :
    WrittenWith r.scheme v r.netloc r.path r.query ∧ t.refuses r.netloc = false := by
  unfold split at h
  rw [htight.kept] at h
  dsimp only at h
  split at h
  · cases h
  · rename_i hrefuses
    cases h
    dsimp only at *
    obtain ⟨scheme, hv, hname⟩ := splitScheme_ne hscheme
    obtain ⟨hrest, hall, hdelim⟩ := splitAuthority_ne hnetloc
    generalize hauthority : splitAuthority (splitScheme v).2 = authority at *
    obtain ⟨hpart, hnohash⟩ := before_of_after_nil hfragment
    generalize hb : before '#' authority.2 = b at *
    -- The query is what stands after the first question mark, if there is one.
    obtain ⟨asked, hasked, hwhole, hnoquery⟩ : ∃ asked,
        ((asked = [] ∧ after '?' b = []) ∨ asked = '?' :: after '?' b) ∧
          b = before '?' b ++ asked ∧ '?' ∉ before '?' b := by
      by_cases hmem : '?' ∈ b
      · exact ⟨'?' :: after '?' b, .inr rfl, (before_after hmem).1, (before_after hmem).2⟩
      · obtain ⟨hbefore, hafter⟩ := before_none hmem
        exact ⟨[], .inl ⟨rfl, hafter⟩, by rw [hbefore, List.append_nil], by rwa [hbefore]⟩
    generalize hp : before '?' b = p at *
    generalize hq : after '?' b = q at *
    have hhash : '#' ∉ p ∧ '#' ∉ q := by
      rw [hwhole, List.mem_append, not_or] at hnohash
      refine ⟨hnohash.1, ?_⟩
      rcases hasked with ⟨-, rfl⟩ | rfl
      · exact List.not_mem_nil
      · exact fun hmem => hnohash.2 (List.mem_cons_of_mem _ hmem)
    have hhead : authority.2.head? = p.head? := by
      cases p with
      | nil => exact absurd rfl hpath
      | cons c rest => rcases hpart with ha | ha <;> rw [ha, hwhole] <;> rfl
    have hrooted : p.head? = some '/' := by
      cases hc : p with
      | nil => exact absurd hc hpath
      | cons c rest =>
        have hout := hdelim c (by rw [hhead, hc]; rfl)
        have hq : c ≠ '?' := fun heq => hnoquery (by rw [hc, heq]; exact List.mem_cons_self)
        have hh : c ≠ '#' := fun heq => hhash.1 (by rw [hc, heq]; exact List.mem_cons_self)
        have hslash : c = '/' := by
          by_contra hne
          simp [inAuthority, hne, hq, hh] at hout
        rw [hslash]
        rfl
    refine ⟨⟨⟨scheme, asked, if authority.2 = b then [] else ['#'], ?_, hname, hasked, ?_⟩, hall,
      hrooted, hnoquery, hhash⟩, by simpa using hrefuses⟩
    · have ha' : b ++ (if authority.2 = b then [] else ['#']) = authority.2 := by
        split
        · rename_i heq
          rw [heq, List.append_nil]
        · rename_i hne
          exact (hpart.resolve_left hne).symm
      rw [← hwhole, ha', ← hrest]
      exact hv
    · split <;> simp

theorem split_written {r : SplitResult} (h : split t v = some r) (htight : Tight v)
    (hscheme : r.scheme ≠ []) (hnetloc : r.netloc ≠ []) (hpath : r.path ≠ []) (hquery : r.query = [])
    (hfragment : r.fragment = []) :
    Written r.scheme v r.netloc r.path ∧ t.refuses r.netloc = false := by
  obtain ⟨hwritten, hrefuses⟩ := split_writtenWith h htight hscheme hnetloc hpath hfragment
  rw [hquery] at hwritten
  exact ⟨written_iff.mpr hwritten, hrefuses⟩

/-! The characters that stand in the URLs of plain hosts, and how such a host may be written. -/

def visible (c : Char) : Bool := 33 ≤ c.toNat && c.toNat ≤ 126

theorem visible_not_space {c : Char} (h : visible c = true) :
    isSpace c = false ∧ isControl c = false ∧ 32 < c.toNat ∧ isAscii c = true := by
  simp only [visible, Bool.and_eq_true, decide_eq_true_eq] at h
  obtain ⟨hlow, hhigh⟩ := h
  refine ⟨?_, ?_, by omega, by simp only [isAscii, decide_eq_true_eq]; omega⟩
  · simp only [isSpace, Bool.or_eq_false_iff, Bool.and_eq_false_iff, decide_eq_false_iff_not]
    omega
  · simp only [isControl, Bool.or_eq_false_iff, Bool.and_eq_false_iff, decide_eq_false_iff_not]
    omega

/-- Visible text has no space at its ends, no control character, and nothing that is removed. -/
theorem visible_tight {v : List Char} (hv : v.all visible = true) :
    trim v = v ∧ v.any isControl = false ∧ Tight v := by
  have hall : ∀ c ∈ v, visible c = true := by simpa using hv
  have hsnug : Snug v := ⟨fun c hc => (visible_not_space (hall c (List.mem_of_mem_head? hc))).1,
    fun c hc => (visible_not_space (hall c (List.mem_of_getLast? hc))).1⟩
  refine ⟨hsnug.trim, ?_, ?_, ?_⟩
  · simpa using fun c hc => (visible_not_space (hall c hc)).2.1
  · cases v with
    | nil => rfl
    | cons c rest => simpa using (visible_not_space (hall c List.mem_cons_self)).2.2.1
  · intro c hc
    have hlow := (visible_not_space (hall c hc)).2.2.1
    refine ⟨?_, ?_, ?_⟩ <;>
    · rintro rfl
      revert hlow
      decide

def hostChar (c : Char) : Bool := c.isAlpha || c = '.'

theorem lower_fixed {c d : Char} (h : c.toLower = d) (hd : d.isAlpha = false) : c = d := by
  unfold Char.toLower at h
  split at h
  · rename_i hupper
    change 65 ≤ c.val.toNat ∧ c.val.toNat ≤ 90 at hupper
    have halpha : d.isAlpha = true := by
      rw [← h, isAlpha_iff]
      change _ ∨ 97 ≤ (c.val.toNat + 32) % 2 ^ 32 ∧ (c.val.toNat + 32) % 2 ^ 32 ≤ 122
      omega
    rw [halpha] at hd
    cases hd
  · exact h

theorem hostChar_lower {name host : List Char} (h : name.map Char.toLower = host)
    (hhost : host.all hostChar = true) : ∀ c ∈ name, hostChar c = true := by
  intro c hc
  have hmem : c.toLower ∈ host := h ▸ List.mem_map_of_mem hc
  have hlower : hostChar c.toLower = true := List.all_eq_true.mp hhost _ hmem
  simp only [hostChar, Bool.or_eq_true, decide_eq_true_eq] at hlower ⊢
  rcases hlower with halpha | hdot
  · exact .inl (toLower_alpha halpha)
  · exact .inr (lower_fixed hdot (by decide))

theorem hostChar_visible {c : Char} (h : hostChar c = true) :
    visible c = true ∧ inAuthority c = true ∧ c ∉ ['@', '[', ']', ':', '%'] := by
  have hout : ∀ d, hostChar d = false → c ≠ d := by
    rintro d hd rfl
    rw [h] at hd
    cases hd
  refine ⟨?_, ?_, ?_⟩
  · simp only [hostChar, Bool.or_eq_true, isAlpha_iff, decide_eq_true_eq] at h
    simp only [visible, Bool.and_eq_true, decide_eq_true_eq]
    rcases h with (h | h) | rfl
    · omega
    · omega
    · decide
  · simp [inAuthority, hout '/' (by decide), hout '?' (by decide), hout '#' (by decide)]
  · simp [hout '@' (by decide), hout '[' (by decide), hout ']' (by decide), hout ':' (by decide),
      hout '%' (by decide)]

theorem tight_of_trim (hne : v ≠ []) (htrim : trim v = v) (hcontrol : v.any isControl = false) :
    Tight v := by
  have hall : ∀ c ∈ v, isControl c = false := by simpa using hcontrol
  constructor
  · cases v with
    | nil => exact absurd rfl hne
    | cons c rest =>
      have hspace : isSpace c = false := (trim_iff.mp htrim).1 c rfl
      have hnot : isControl c = false := hall c List.mem_cons_self
      simp only [isSpace, Bool.or_eq_false_iff, Bool.and_eq_false_iff, decide_eq_false_iff_not]
        at hspace
      simp only [isControl, Bool.or_eq_false_iff, decide_eq_false_iff_not] at hnot
      simp only [List.head?_cons, Option.all_some, decide_eq_true_eq]
      omega
  · intro c hc
    have hnot := hall c hc
    refine ⟨?_, ?_, ?_⟩ <;>
    · rintro rfl
      revert hnot
      decide

def httpsPort : List Char := ":443".toList

/-- A host in lower case that is written with ASCII letters and dots. -/
structure PlainHost (host : List Char) : Prop where
  nonempty : host ≠ []
  short : host.length ≤ 15
  chars : host.all hostChar = true
  ascii : ∀ c ∈ host, isAscii c = true ∧ c ≠ 'k'
  lowered : host.map Char.toLower = host

/- The authority names the host in any case, with its port left out or given as 443. -/
def AtHost (netloc host : List Char) : Prop :=
  ∃ name, name.map Char.toLower = host ∧ (netloc = name ∨ netloc = name ++ httpsPort)

section Host
variable {host : List Char}

/-- What lowers to a host, with or without the port, is the host in some case. -/
theorem PlainHost.atHost_iff (h : PlainHost host) :
    AtHost netloc host ↔ t.lower netloc = host ∨ t.lower netloc = host ++ httpsPort := by
  have hchars := h.chars
  have hascii := h.ascii
  have hport : ∀ c ∈ httpsPort, isAscii c = true ∧ c ≠ 'k' := by
    intro c hc
    have hall : httpsPort.all (fun c => isAscii c && c ≠ 'k') = true := by decide
    simpa using List.all_eq_true.mp hall c hc
  have hfixed : ∀ port, port.map Char.toLower = httpsPort → port = httpsPort := by
    intro port hmap
    have hall : ∀ d ∈ httpsPort, d.isAlpha = false := by
      have hports : httpsPort.all (fun d => !d.isAlpha) = true := by decide
      simpa using hports
    apply List.ext_getElem
    · rw [← hmap, List.length_map]
    · intro n hn hn'
      have hn'' : n < (port.map Char.toLower).length := by simpa using hn
      have hget : (port[n]).toLower = httpsPort[n] := by
        have heq : (port.map Char.toLower)[n] = httpsPort[n] := by simp only [hmap]
        simpa using heq
      exact lower_fixed hget (hall _ (List.getElem_mem hn'))
  constructor
  · rintro ⟨name, hname, hcases⟩
    have hall : name.all isAscii = true := by
      rw [List.all_eq_true]
      exact fun c hc => (visible_not_space
        (hostChar_visible (hostChar_lower hname hchars c hc)).1).2.2.2
    rcases hcases with rfl | rfl
    · left
      rw [t.lower_ascii _ hall, hname]
    · right
      have hall' : (name ++ httpsPort).all isAscii = true := by
        rw [List.all_append, hall]
        rfl
      rw [t.lower_ascii _ hall', List.map_append, hname]
      rfl
  · intro hlower
    have hkelvin : ∀ c ∈ t.lower netloc, isAscii c = true ∧ c ≠ 'k' := by
      intro c hc
      rcases hlower with hlower | hlower
      · rw [hlower] at hc
        exact hascii c hc
      · rw [hlower] at hc
        rcases List.mem_append.mp hc with hc | hc
        · exact hascii c hc
        · exact hport c hc
    rw [t.lower_ascii _ (t.lower_kelvin _ hkelvin)] at hlower
    rcases hlower with hlower | hlower
    · exact ⟨netloc, hlower, .inl rfl⟩
    · obtain ⟨name, port, rfl, hname, hmap⟩ := List.map_eq_append_iff.mp hlower
      exact ⟨name, hname, .inr (by rw [hfixed port hmap])⟩

/-- An authority on a host is not refused and has neither userinfo nor another port. -/
theorem PlainHost.parts (hhost : PlainHost host) (h : AtHost netloc host) {r : SplitResult} (hr : r.netloc = netloc) :
    t.refuses netloc = false ∧ r.username = none ∧ r.password = none ∧
      (r.port = some none ∨ r.port = some (some 443)) ∧
      (∃ hostname, r.hostname t = some hostname ∧ t.lower hostname = host) ∧
      netloc.all visible = true ∧ netloc.all inAuthority = true ∧ netloc ≠ [] ∧
      netloc.length ≤ 19 := by
  obtain ⟨name, hname, hcases⟩ := h
  obtain ⟨hne, hlength, hchars, hascii, hfix⟩ := hhost
  have hall := hostChar_lower hname hchars
  have hvisible : ∀ c ∈ name, visible c = true ∧ inAuthority c = true ∧
      c ∉ ['@', '[', ']', ':', '%'] := fun c hc => hostChar_visible (hall c hc)
  have hnone : ∀ d ∈ ['@', '[', ']', ':', '%'], d ∉ name := fun d hd hmem =>
    (hvisible d hmem).2.2 hd
  have hname' : name ≠ [] := by
    rintro rfl
    exact hne hname.symm
  have hlower : t.lower name = host := by
    rw [t.lower_ascii, hname]
    rw [List.all_eq_true]
    exact fun c hc => (visible_not_space (hvisible c hc).1).2.2.2
  have hlower' : t.lower host = host := by
    rw [t.lower_ascii, hfix]
    rw [List.all_eq_true]
    exact fun c hc => (hascii c hc).1
  have hlen : name.length ≤ 15 := by
    rw [← hname, List.length_map] at hlength
    exact hlength
  -- Both forms hold no bracket and no `@`, so that only the port is cut off.
  have hform : ∃ port, (port = [] ∨ port = httpsPort) ∧ netloc = name ++ port := by
    rcases hcases with rfl | rfl
    · exact ⟨[], .inl rfl, (List.append_nil _).symm⟩
    · exact ⟨httpsPort, .inr rfl, rfl⟩
  obtain ⟨port, hport, rfl⟩ := hform
  have hportchars : port.all (fun c => visible c && inAuthority c && c ∉ ['@', '[', ']', '%']) = true := by
    rcases hport with rfl | rfl <;> decide
  have hportall : ∀ c ∈ port, visible c = true ∧ inAuthority c = true ∧
      c ∉ ['@', '[', ']', '%'] := by
    intro c hc
    simpa [and_assoc] using List.all_eq_true.mp hportchars c hc
  have hsmall : port.length ≤ 4 := by
    rcases hport with rfl | rfl <;> decide
  have hchar : ∀ c ∈ name ++ port, visible c = true ∧ inAuthority c = true ∧
      c ∉ ['@', '[', ']', '%'] := by
    intro c hc
    rcases List.mem_append.mp hc with hc | hc
    · obtain ⟨hv, ha, hn⟩ := hvisible c hc
      exact ⟨hv, ha, fun hmem => hn (by simp at hmem ⊢; tauto)⟩
    · exact hportall c hc
  have hat : '@' ∉ r.netloc := fun hmem => (hchar '@' (hr ▸ hmem)).2.2 (by decide)
  have hbracket : '[' ∉ name ++ port := fun hmem => (hchar '[' hmem).2.2 (by decide)
  have hinfo : r.hostinfo = name ++ port := by
    rw [SplitResult.hostinfo, hr, List.takeWhile_eq_self_iff.mpr, List.reverse_reverse]
    intro c hc
    have hne : c ≠ '@' := by
      rintro rfl
      exact hat (hr ▸ List.mem_reverse.mp hc)
    simpa using hne
  have huser : r.userinfo = none := if_neg hat
  have hparts : r.hostPort = (name, port.drop 1) := by
    rw [SplitResult.hostPort, hinfo, if_neg hbracket]
    rcases hport with rfl | rfl
    · rw [List.append_nil, (before_none (hnone ':' (by decide))).1,
        (before_none (hnone ':' (by decide))).2]
      rfl
    · have hcut := before_append ['4', '4', '3'] (hnone ':' (by decide))
      exact Prod.ext hcut.1 hcut.2
  refine ⟨?_, ?_, ?_, ?_, ⟨name.map Char.toLower, ?_, ?_⟩, ?_, ?_, ?_, ?_⟩
  · apply t.refuses_plain
    rw [List.all_eq_true]
    intro c hc
    obtain ⟨hv, -, hn⟩ := hchar c hc
    have hplain : c ≠ '[' ∧ c ≠ ']' := by
      simp only [List.mem_cons, not_or] at hn
      exact ⟨hn.2.1, hn.2.2.1⟩
    simp [(visible_not_space hv).2.2.2, hplain]
  · rw [SplitResult.username, huser]
    rfl
  · rw [SplitResult.password, huser]
    rfl
  · rcases hport with rfl | rfl
    · exact .inl (if_pos (by rw [hparts]; rfl))
    · have hdigits : SplitResult.digits ['4', '4', '3'] = 443 := by decide +kernel
      have hsecond : r.hostPort.2 = ['4', '4', '3'] := by rw [hparts]; rfl
      right
      simp [SplitResult.port, hsecond, hdigits]
  · rw [SplitResult.hostname, hparts, if_neg hname']
    have hpercent := before_none (hnone '%' (by decide))
    have hdrop : name.dropWhile (· ≠ '%') = [] := by
      rw [List.dropWhile_eq_nil_iff]
      intro c hc
      simpa using fun heq : c = '%' => hnone '%' (by decide) (heq ▸ hc)
    rw [hpercent.1, hdrop, List.append_nil, hlower, hname]
  · rw [hname, hlower']
  · rw [List.all_eq_true]
    exact fun c hc => (hchar c hc).1
  · rw [List.all_eq_true]
    exact fun c hc => (hchar c hc).2.1
  · simp [hname']
  · rw [List.length_append]
    omega

end Host

end Url
