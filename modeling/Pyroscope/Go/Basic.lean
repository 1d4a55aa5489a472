import Mathlib.Data.List.Basic

set_option autoImplicit false

/-! # Go values: fallible results, strings and the `strings` functions

A Go call that returns `(value, error)` is modelled as `Except`; the two equations below let
`simp` step through a chain of such calls once each call's result is known.

A Go `string` is a byte sequence and every function of the `strings` package that
`kuberesolver.go` and `net/url` call here (`Cut`, `IndexByte`, `LastIndexByte`, `SplitN`,
`HasPrefix`, `TrimPrefix`) works byte by byte. We write a Go string as a `List Char` whose
characters are its bytes, so ASCII text reads as itself and slicing `s[:i]`, `s[i:]` is
`List.take` / `List.drop`. All separators these functions look for are ASCII.

Every function is structurally recursive, so that concrete inputs evaluate by `decide`, and each
is followed by the lemmas that later proofs cite instead of unfolding it: what it returns on a
string that lacks the separator, and on `s ++ sep :: r` with the separator absent from the part
that is searched first. -/

namespace Pyroscope.Go

/-! ## Fallible results -/

@[simp] theorem except_ok_bind {ε α β : Type} (a : α) (f : α → Except ε β) :
    (Except.ok a >>= f) = f a := rfl

@[simp] theorem except_error_bind {ε α β : Type} (e : ε) (f : α → Except ε β) :
    (Except.error e >>= f) = Except.error e := rfl

@[simp] theorem except_map_ok {ε α β : Type} (f : α → β) (a : α) :
    Except.map f (Except.ok a : Except ε α) = Except.ok (f a) := rfl

/-- A successful chain of calls: the first call succeeded and the rest did on its result. -/
theorem except_bind_eq_ok {ε α β : Type} {x : Except ε α} {f : α → Except ε β} {b : β} :
    x >>= f = .ok b ↔ ∃ a, x = .ok a ∧ f a = .ok b := by
  cases x <;> simp

theorem except_map_eq_ok {ε α β : Type} {f : α → β} {x : Except ε α} {b : β} :
    Except.map f x = .ok b ↔ ∃ a, x = .ok a ∧ f a = b := by
  cases x <;> simp [Except.map]

/-- A `for range` loop whose body fails on exactly the elements that fail `P`, whatever the
    state it is given, fails exactly when some element fails `P`. -/
theorem foldlM_error_iff {ε α β : Type} {f : α → β → Except ε α} {P : β → Bool}
    (hok : ∀ s x, P x = true → ∃ s', f s x = .ok s')
    (herr : ∀ s x, P x = false → ∃ e, f s x = .error e) (l : List β) (s : α) :
    (∃ e, l.foldlM f s = .error e) ↔ ∃ x ∈ l, P x = false := by
  induction l generalizing s with
  | nil => simp [pure, Except.pure]
  | cons x l ih =>
    cases hx : P x
    · obtain ⟨e, he⟩ := herr s x hx
      simp [he, hx]
    · obtain ⟨s', hs'⟩ := hok s x hx
      simp [hs', ih, hx]

/-! ## Cutting a string at a byte

Every search below is specified by where it cuts its string, `s = b ++ c :: a`, with `c` absent
from `b` (the first `c`) or from `a` (the last `c`); such a cut exists for every byte of `s` and is
unique. -/

theorem exists_split_first {c : Char} {s : List Char} (h : c ∈ s) :
    ∃ b a, c ∉ b ∧ s = b ++ c :: a :=
  let ⟨b, a, hb, hs, _⟩ := List.exists_erase_eq h
  ⟨b, a, hb, hs⟩

theorem exists_split_last {c : Char} {s : List Char} (h : c ∈ s) :
    ∃ b a, c ∉ a ∧ s = b ++ c :: a := by
  obtain ⟨a, b, ha, hs⟩ := exists_split_first (List.mem_reverse.2 h)
  exact ⟨b.reverse, a.reverse, by simpa using ha, by simpa using congrArg List.reverse hs⟩

theorem split_first_unique {c : Char} {b a b' a' : List Char} (hb : c ∉ b) (hb' : c ∉ b')
    (h : b ++ c :: a = b' ++ c :: a') : b = b' ∧ a = a' := by
  induction b generalizing b' with
  | nil =>
    cases b' with
    | nil => simpa using h
    | cons d b' =>
      simp only [List.nil_append, List.cons_append, List.cons.injEq] at h
      simp [h.1] at hb'
  | cons d b ih =>
    cases b' with
    | nil =>
      simp only [List.nil_append, List.cons_append, List.cons.injEq] at h
      simp [h.1] at hb
    | cons d' b' =>
      simp only [List.cons_append, List.cons.injEq] at h
      obtain ⟨rfl, h⟩ := h
      have := ih (fun hm => hb (.tail _ hm)) (fun hm => hb' (.tail _ hm)) h
      exact ⟨by rw [this.1], this.2⟩

theorem split_last_unique {c : Char} {b a b' a' : List Char} (ha : c ∉ a) (ha' : c ∉ a')
    (h : b ++ c :: a = b' ++ c :: a') : b = b' ∧ a = a' := by
  have h' := congrArg List.reverse h
  simp only [List.reverse_append, List.reverse_cons, List.append_assoc, List.singleton_append] at h'
  have := split_first_unique (by simpa using ha) (by simpa using ha') h'
  exact ⟨List.reverse_injective this.2, List.reverse_injective this.1⟩

/-! ## `strings.Cut` -/

/-- `strings.Cut(s, sep)` for a one-byte separator: the text before the first `sep`, the text
    after it, and whether `sep` was found (`(s, "", false)` when it is not). -/
def cut (sep : Char) : List Char → List Char × List Char × Bool
  | [] => ([], [], false)
  | c :: s =>
    if c = sep then ([], s, true)
    else match cut sep s with
      | (before, after, found) => (c :: before, after, found)

theorem cut_of_not_mem {sep : Char} {s : List Char} (h : sep ∉ s) : cut sep s = (s, [], false) := by
  induction s with
  | nil => rfl
  | cons c s ih =>
    simp only [List.mem_cons, not_or] at h
    simp [cut, Ne.symm h.1, ih h.2]

theorem cut_append_cons {sep : Char} {s : List Char} (r : List Char) (h : sep ∉ s) :
    cut sep (s ++ sep :: r) = (s, r, true) := by
  induction s with
  | nil => simp [cut]
  | cons c s ih =>
    simp only [List.mem_cons, not_or] at h
    simp [cut, Ne.symm h.1, ih h.2]

/-! ## `strings.IndexByte` and `strings.LastIndexByte` (`none` is Go's `-1`) -/

/-- `strings.IndexByte(s, c)`: the position of the first `c`. -/
def indexByte (c : Char) : List Char → Option Nat
  | [] => none
  | d :: s => if d = c then some 0 else (indexByte c s).map (· + 1)

theorem indexByte_of_not_mem {c : Char} {s : List Char} (h : c ∉ s) : indexByte c s = none := by
  induction s with
  | nil => rfl
  | cons d s ih =>
    simp only [List.mem_cons, not_or] at h
    simp [indexByte, Ne.symm h.1, ih h.2]

theorem indexByte_append_cons {c : Char} {s : List Char} (r : List Char) (h : c ∉ s) :
    indexByte c (s ++ c :: r) = some s.length := by
  induction s with
  | nil => simp [indexByte]
  | cons d s ih =>
    simp only [List.mem_cons, not_or] at h
    simp [indexByte, Ne.symm h.1, ih h.2]

/-- `strings.LastIndexByte(s, c)`: the position of the last `c`. -/
def lastIndexByte (c : Char) : List Char → Option Nat
  | [] => none
  | d :: s =>
    match lastIndexByte c s with
    | some i => some (i + 1)
    | none => if d = c then some 0 else none

theorem lastIndexByte_of_not_mem {c : Char} {s : List Char} (h : c ∉ s) :
    lastIndexByte c s = none := by
  induction s with
  | nil => rfl
  | cons d s ih =>
    simp only [List.mem_cons, not_or] at h
    simp [lastIndexByte, Ne.symm h.1, ih h.2]

theorem lastIndexByte_append_cons {c : Char} (s : List Char) {r : List Char} (h : c ∉ r) :
    lastIndexByte c (s ++ c :: r) = some s.length := by
  induction s with
  | nil => simp [lastIndexByte, lastIndexByte_of_not_mem h]
  | cons d s ih => simp [lastIndexByte, ih]

theorem lastIndexByte_eq_none {c : Char} {s : List Char} (h : lastIndexByte c s = none) :
    c ∉ s := by
  intro hm
  obtain ⟨b, a, ha, rfl⟩ := exists_split_last hm
  rw [lastIndexByte_append_cons b ha] at h
  cases h

/-- The position `LastIndexByte` finds is that of the last `c`. -/
theorem lastIndexByte_eq_some {c : Char} {s : List Char} {i : Nat}
    (h : lastIndexByte c s = some i) : ∃ b a, c ∉ a ∧ s = b ++ c :: a ∧ b.length = i := by
  by_cases hm : c ∈ s
  · obtain ⟨b, a, ha, rfl⟩ := exists_split_last hm
    rw [lastIndexByte_append_cons b ha] at h
    exact ⟨b, a, ha, rfl, Option.some.inj h⟩
  · rw [lastIndexByte_of_not_mem hm] at h
    cases h

/-! ## `strings.SplitN` -/

/-- `strings.SplitN(s, sep, n)` for a one-byte separator and `n ≥ 0`: at most `n` pieces, the
    last holding the unsplit rest (`nil` for `n = 0`). -/
def splitN (sep : Char) : Nat → List Char → List (List Char)
  | 0, _ => []
  | 1, s => [s]
  | n + 2, s =>
    match cut sep s with
    | (before, after, true) => before :: splitN sep (n + 1) after
    | (_, _, false) => [s]

theorem splitN_of_not_mem {sep : Char} {s : List Char} (n : Nat) (h : sep ∉ s) :
    splitN sep (n + 1) s = [s] := by
  cases n with
  | zero => rfl
  | succ n => simp [splitN, cut_of_not_mem h]

theorem splitN_append_cons {sep : Char} {s : List Char} (n : Nat) (r : List Char) (h : sep ∉ s) :
    splitN sep (n + 2) (s ++ sep :: r) = s :: splitN sep (n + 1) r := by
  simp [splitN, cut_append_cons r h]

theorem splitN_succ_ne_nil (sep : Char) (n : Nat) (s : List Char) : splitN sep (n + 1) s ≠ [] := by
  cases n with
  | zero => simp [splitN]
  | succ n =>
    simp only [splitN]
    split <;> simp

/-! ## `strings.HasPrefix` and `strings.TrimPrefix` -/

/-- `strings.HasPrefix(s, p)`. -/
def hasPrefix : List Char → List Char → Bool
  | _, [] => true
  | [], _ :: _ => false
  | c :: s, d :: p => decide (c = d) && hasPrefix s p

@[simp] theorem hasPrefix_nil (s : List Char) : hasPrefix s [] = true := by
  cases s <;> rfl

@[simp] theorem nil_hasPrefix_cons (d : Char) (p : List Char) : hasPrefix [] (d :: p) = false :=
  rfl

@[simp] theorem cons_hasPrefix_cons (c d : Char) (s p : List Char) :
    hasPrefix (c :: s) (d :: p) = (decide (c = d) && hasPrefix s p) := rfl

/-- `strings.TrimPrefix(s, p)`: `s` without its leading `p`, if it has one. -/
def trimPrefix (s p : List Char) : List Char :=
  if hasPrefix s p then s.drop p.length else s

/-- `strings.Index(s, sep)`: the position of the first occurrence of `sep` in `s`. -/
def index (sep : List Char) : List Char → Option Nat
  | [] => if sep.isEmpty then some 0 else none
  | c :: s => if hasPrefix (c :: s) sep then some 0 else (index sep s).map (· + 1)

/-- A string that does not start with `sep` holds it, if at all, past its first byte. -/
theorem index_ne_zero {sep s : List Char} {k : Nat} (h : index sep s = some k)
    (hs : hasPrefix s sep = false) : k ≠ 0 := by
  cases s with
  | nil => cases sep <;> simp_all [index]
  | cons c s =>
    rw [index, if_neg (by simp [hs])] at h
    obtain ⟨j, -, rfl⟩ := Option.map_eq_some'.1 h
    omega

end Pyroscope.Go
