/-
# PathTemplate.Proofs.Regex.Language — the texts that an expression matches wherever they stand.

Without anchors it makes no difference to a way of matching what is before and after it. Such ways denote a
language: the texts that can be taken. Marks are left out of account. The operations on ways become those on
languages.
-/
import Mathlib.Computability.Language
import PathTemplate.Proofs.Regex.Normal
import PathTemplate.Regex.Assembly

namespace PathTemplate.Regex

/-- Taken alone, the pattern can match the text from its beginning to its end. -/
def MatchesInFull [PropertyTable] (pattern text : Text) : Prop :=
  ∃ r marks, parse? pattern = some r ∧ r.ways [] text [] marks

/-- The texts that the pattern matches in full. -/
def fullLanguage [PropertyTable] (pattern : Text) : Language Char := {text | MatchesInFull pattern text}

namespace Ways

/-- Whatever is before and after, the texts of the language and no others can be taken. -/
def Denotes (W : Ways) (L : Language Char) : Prop :=
  ∀ before taken after, (∃ marks, W before taken after marks) ↔ taken ∈ L

namespace Denotes

variable {V W : Ways} {K L : Language Char}

theorem nothing : Ways.nothing.Denotes 1 := by
  intro before taken after
  rw [Language.mem_one]
  exact ⟨fun ⟨_, h, _⟩ => h, fun h => ⟨[], h, rfl⟩⟩

theorem text (t : Text) : (Ways.text t).Denotes {t} := by
  intro before taken after
  exact ⟨fun ⟨_, h, _⟩ => h, fun h => ⟨[], h, rfl⟩⟩

theorem character (p : Char → Bool) : (Ways.character p).Denotes {taken | ∃ c, p c = true ∧ taken = [c]} := by
  intro before taken after
  exact ⟨fun ⟨_, h, _⟩ => h, fun h => ⟨[], h, rfl⟩⟩

theorem mark (f : Nat → Mark) : (Ways.mark f).Denotes 1 := by
  intro before taken after
  rw [Language.mem_one]
  exact ⟨fun ⟨_, h, _⟩ => h, fun h => ⟨[f before.length], h, rfl⟩⟩

theorem andThen (hV : V.Denotes K) (hW : W.Denotes L) : (V.andThen W).Denotes (K * L) := by
  intro before taken after
  rw [Language.mem_mul]
  constructor
  · rintro ⟨_, u, v, m, n, rfl, rfl, hu, hv⟩
    exact ⟨u, (hV _ _ _).1 ⟨m, hu⟩, v, (hW _ _ _).1 ⟨n, hv⟩, rfl⟩
  · rintro ⟨u, hu, v, hv, rfl⟩
    -- what is after the first text begins with the second, which makes no difference to the first
    obtain ⟨m, hm⟩ := (hV before u (v ++ after)).2 hu
    obtain ⟨n, hn⟩ := (hW (before ++ u) v after).2 hv
    exact ⟨n ++ m, u, v, m, n, rfl, rfl, hm, hn⟩

theorem either (hV : V.Denotes K) (hW : W.Denotes L) : (V.either W).Denotes (K + L) := by
  intro before taken after
  rw [Language.mem_add, ← hV before taken after, ← hW before taken after, ← exists_or]
  rfl

theorem power (hW : W.Denotes L) (n : Nat) : (W.power n).Denotes (L ^ n) := by
  induction n with
  | zero =>
    rw [pow_zero]
    exact nothing
  | succ n ih =>
    rw [pow_succ']
    exact hW.andThen ih

theorem times (hW : W.Denotes L) (allowed : Nat → Prop) :
    (W.times allowed).Denotes {taken | ∃ n, allowed n ∧ taken ∈ L ^ n} := by
  intro before taken after
  constructor
  · rintro ⟨marks, n, hn, h⟩
    exact ⟨n, hn, (hW.power n before taken after).1 ⟨marks, h⟩⟩
  · rintro ⟨n, hn, h⟩
    obtain ⟨marks, h⟩ := (hW.power n before taken after).2 h
    exact ⟨marks, n, hn, h⟩

theorem group (name : Text) (hW : W.Denotes L) : (Ways.group name W).Denotes L := by
  have h := (mark (.entered name)).andThen (hW.andThen (mark (.left name)))
  rwa [one_mul, mul_one] at h

end Denotes

end Ways

/-- An expression without anchors denotes a language. -/
theorem exists_denotes_of_anchorFree {r : Regex} (h : r.anchorFree = true) : ∃ L, r.ways.Denotes L := by
  induction r with
  | empty => exact ⟨_, .nothing⟩
  | literal t => exact ⟨_, .text t⟩
  | set s => exact ⟨_, .character s.contains⟩
  | anchor a => simp [anchorFree] at h
  | seq first second ihFirst ihSecond =>
    obtain ⟨hfirst, hsecond⟩ := (Bool.and_eq_true _ _).mp h
    obtain ⟨K, hK⟩ := ihFirst hfirst
    obtain ⟨L, hL⟩ := ihSecond hsecond
    exact ⟨_, hK.andThen hL⟩
  | alt first second ihFirst ihSecond =>
    obtain ⟨hfirst, hsecond⟩ := (Bool.and_eq_true _ _).mp h
    obtain ⟨K, hK⟩ := ihFirst hfirst
    obtain ⟨L, hL⟩ := ihSecond hsecond
    exact ⟨_, hK.either hL⟩
  | repeated body least most greedy ih =>
    obtain ⟨L, hL⟩ := ih h
    exact ⟨_, hL.times _⟩
  | numbered number body ih => exact ih h
  | named name body ih =>
    obtain ⟨L, hL⟩ := ih h
    exact ⟨_, hL.group name⟩

/-- The language of a pattern without anchors is what it matches in full. -/
theorem denotes_fullLanguage [PropertyTable] {pattern : Text} {r : Regex} (hparse : parse? pattern = some r)
    (hfree : r.anchorFree = true) : r.ways.Denotes (fullLanguage pattern) := by
  obtain ⟨L, hL⟩ := exists_denotes_of_anchorFree hfree
  have hlanguage : fullLanguage pattern = L := by
    -- taken alone means with nothing before and after, one of the cases that `Denotes` speaks of
    apply Language.ext
    intro taken
    rw [← hL [] taken []]
    constructor
    · rintro ⟨r', marks, hparse', h⟩
      obtain rfl := Option.some.inj (hparse.symm.trans hparse')
      exact ⟨marks, h⟩
    · rintro ⟨marks, h⟩
      exact ⟨r, marks, hparse, h⟩
  rwa [hlanguage]

/-- A repeated set matches each of its characters in full. -/
theorem matchesInFull_of_repeated_set [PropertyTable] {pattern : Text} {s : CharSet} {greedy : Bool}
    (hparse : parse? pattern = some (.repeated (.set s) 1 none greedy)) {c : Char} (hc : s.contains c = true) :
    MatchesInFull pattern [c] :=
  ⟨_, [], hparse, 1, ⟨Nat.le_refl 1, by simp⟩, [c], [], [], [], rfl, rfl, ⟨⟨c, hc, rfl⟩, rfl⟩, rfl, rfl⟩

end PathTemplate.Regex
