import TextMacros.Display.CharWidth

/-!
# TextMacros.Display.Width

How many columns of a terminal a text takes up, and cutting it to a number of columns.

The widths of the characters add up, but for two characters: a joiner takes the character behind
it away, and a selector makes the character before it wide, if it is one that becomes wide as an
emoji.  A text is cut between its clusters: a character with the marks, joiners and selectors
behind it.  Main statements:

* `width_of_plain`: without joiners and selectors widths add up;
* `width_fitted`: a text without joiners and selectors that is fitted takes up as many columns as
  it is given.
-/

namespace TextMacros.Display

/-! ## measuring -/

/-- The columns that a selector adds to the character before it. -/
def widening : Option Char → Nat
  | some c => if isWidened c then 1 else 0
  | none => 0

/-- The columns that a text takes up behind a character that a selector may make wide; the first
character is `joined` if a joiner stands before it. -/
def widthFrom : (joined : Bool) → (last? : Option Char) → Text → Nat
  | _, _, [] => 0
  | true, last?, _ :: cs => widthFrom false last? cs
  | false, last?, c :: cs =>
    if c = joiner then widthFrom true last? cs
    else if c = selector then widening last? + widthFrom false none cs
    else charWidth c + widthFrom false (if charWidth c = 0 then last? else some c) cs

/-- The columns that a text takes up. -/
def width (t : Text) : Nat := widthFrom false none t

/-- The sum of the widths of the characters of a text. -/
def totalWidth : Text → Nat
  | [] => 0
  | c :: cs => charWidth c + totalWidth cs

@[simp] theorem totalWidth_nil : totalWidth [] = 0 := rfl

@[simp] theorem totalWidth_cons (c : Char) (t : Text) :
    totalWidth (c :: t) = charWidth c + totalWidth t := rfl

@[simp] theorem totalWidth_append (s t : Text) :
    totalWidth (s ++ t) = totalWidth s + totalWidth t := by
  induction s with
  | nil => simp
  | cons c cs ih => rw [List.cons_append, totalWidth_cons, totalWidth_cons, ih, Nat.add_assoc]

theorem widthFrom_of_plain {last? : Option Char} {t : Text} (h : t.all isPlain) :
    widthFrom false last? t = totalWidth t := by
  induction t generalizing last? with
  | nil => rfl
  | cons c cs ih =>
    simp only [List.all_cons, Bool.and_eq_true, isPlain, bne_iff_ne, ne_eq] at h
    simp [widthFrom, h.1.1, h.1.2, ih h.2]

theorem width_of_plain {t : Text} (h : t.all isPlain) : width t = totalWidth t :=
  widthFrom_of_plain h

/-! ## clusters -/

/-- A character with what belongs to it. -/
structure Cluster where
  /-- The characters. -/
  chars : Text
  /-- The columns that they take up. -/
  width : Nat
  deriving DecidableEq, Repr

/-- Clusters, the last first, with a character put to the last. -/
def extendLast (c : Char) (more : Nat) : List Cluster → List Cluster
  | [] => [⟨[c], more⟩]
  | last :: done => ⟨last.chars ++ [c], last.width + more⟩ :: done

/-- The clusters of a text behind others, which are given last first. -/
def clustersFrom : (joined : Bool) → (last? : Option Char) → List Cluster → Text → List Cluster
  | _, _, done, [] => done.reverse
  | true, last?, done, c :: cs => clustersFrom false last? (extendLast c 0 done) cs
  | false, last?, done, c :: cs =>
    if c = joiner then clustersFrom (!done.isEmpty) last? (extendLast c 0 done) cs
    else if c = selector then
      clustersFrom false (if widening last? = 0 then last? else none)
        (extendLast c (widening last?) done) cs
    else if charWidth c = 0 then clustersFrom false last? (extendLast c 0 done) cs
    else clustersFrom false (some c) (⟨[c], charWidth c⟩ :: done) cs

/-- The clusters of a text. -/
def clusters (t : Text) : List Cluster := clustersFrom false none [] t

/-! ## fitting -/

/-- So many spaces. -/
def spaces (n : Nat) : Text := List.replicate n ' '

/-- As many clusters as fit into so many columns; spaces stand for a part of a cluster. -/
def cutClusters (columns : Nat) : List Cluster → Text
  | [] => []
  | c :: cs =>
    if columns = 0 then []
    else if c.width ≤ columns then c.chars ++ cutClusters (columns - c.width) cs
    else spaces columns

/-- A text filled up with spaces to so many columns. -/
def padded (columns : Nat) (t : Text) : Text := t ++ spaces (columns - width t)

/-- A text made to take up so many columns: cut short, or filled up with spaces. -/
def fitted (columns : Nat) (t : Text) : Text :=
  if width t ≤ columns then padded columns t else cutClusters columns (clusters t)

@[simp] theorem totalWidth_spaces (n : Nat) : totalWidth (spaces n) = n := by
  have h : charWidth ' ' = 1 := by decide
  induction n with
  | zero => rfl
  | succ n ih => simp only [spaces, List.replicate_succ, totalWidth_cons] at ih ⊢; omega

theorem all_isPlain_spaces (n : Nat) : (spaces n).all isPlain := by
  have h : isPlain ' ' = true := by decide
  simp [spaces, h]

/-- Whether a cluster holds plain characters only, whose widths add up to its own. -/
def Cluster.isSum (c : Cluster) : Bool := c.chars.all isPlain && c.width == totalWidth c.chars

/-- The columns that clusters take up together. -/
def clustersWidth : List Cluster → Nat
  | [] => 0
  | c :: cs => c.width + clustersWidth cs

theorem clustersWidth_append (cs ds : List Cluster) :
    clustersWidth (cs ++ ds) = clustersWidth cs + clustersWidth ds := by
  induction cs with
  | nil => simp [clustersWidth]
  | cons c cs ih => rw [List.cons_append, clustersWidth, clustersWidth, ih, Nat.add_assoc]

@[simp] theorem clustersWidth_reverse (cs : List Cluster) :
    clustersWidth cs.reverse = clustersWidth cs := by
  induction cs with
  | nil => rfl
  | cons c cs ih =>
    rw [List.reverse_cons, clustersWidth_append, ih, clustersWidth, clustersWidth, clustersWidth,
      Nat.add_zero, Nat.add_comm]

theorem extendLast_isSum {c : Char} {done : List Cluster} (hc : isPlain c) (hw : charWidth c = 0)
    (h : done.all Cluster.isSum) : (extendLast c 0 done).all Cluster.isSum := by
  cases done with
  | nil => simp [extendLast, Cluster.isSum, hc, hw]
  | cons last done =>
    simp only [List.all_cons, Bool.and_eq_true] at h
    have hlast : last.chars.all isPlain = true ∧ last.width = totalWidth last.chars := by
      simpa [Cluster.isSum] using h.1
    simp only [extendLast, List.all_cons, h.2, Cluster.isSum, List.all_append, hlast.1, hlast.2,
      totalWidth_append]
    simp [hc, hw]

theorem clustersWidth_extendLast (c : Char) (done : List Cluster) :
    clustersWidth (extendLast c 0 done) = clustersWidth done := by
  cases done <;> simp [extendLast, clustersWidth]

theorem clustersFrom_of_plain {last? : Option Char} {done : List Cluster} {t : Text}
    (hdone : done.all Cluster.isSum) (ht : t.all isPlain) :
    (clustersFrom false last? done t).all Cluster.isSum ∧
      clustersWidth (clustersFrom false last? done t) = clustersWidth done + totalWidth t := by
  induction t generalizing last? done with
  | nil => simpa [clustersFrom] using hdone
  | cons c cs ih =>
    simp only [List.all_cons, Bool.and_eq_true] at ht
    have hc : c ≠ joiner ∧ c ≠ selector := by simpa [isPlain] using ht.1
    by_cases hw : charWidth c = 0
    · have := @ih last? _ (extendLast_isSum ht.1 hw hdone) ht.2
      simpa [clustersFrom, hc.1, hc.2, hw, clustersWidth_extendLast] using this
    · have := @ih (some c) (⟨[c], charWidth c⟩ :: done)
        (by simp only [List.all_cons, hdone, Bool.and_true]; simp [Cluster.isSum, ht.1]) ht.2
      simp only [clustersFrom, hc.1, hc.2, hw, if_false]
      refine ⟨this.1, this.2.trans ?_⟩
      simp only [clustersWidth, totalWidth_cons]
      omega

theorem cutClusters_of_isSum {columns : Nat} {cs : List Cluster} (h : cs.all Cluster.isSum)
    (hle : columns ≤ clustersWidth cs) :
    (cutClusters columns cs).all isPlain ∧ totalWidth (cutClusters columns cs) = columns := by
  induction cs generalizing columns with
  | nil => simp_all [clustersWidth, cutClusters]
  | cons c cs ih =>
    simp only [List.all_cons, Bool.and_eq_true] at h
    simp only [clustersWidth] at hle
    have hsum : c.chars.all isPlain = true ∧ c.width = totalWidth c.chars := by
      simpa [Cluster.isSum] using h.1
    by_cases hzero : columns = 0
    · simp [cutClusters, hzero]
    · by_cases hfit : c.width ≤ columns
      · have := @ih (columns - c.width) h.2 (by omega)
        simp only [cutClusters, hzero, hfit, if_false, if_true, List.all_append, hsum.1, this.1,
          totalWidth_append, this.2, Bool.and_self, true_and]
        omega
      · simp [cutClusters, hzero, hfit, all_isPlain_spaces]

theorem all_isPlain_fitted (columns : Nat) {t : Text} (h : t.all isPlain) :
    (fitted columns t).all isPlain := by
  have hc := @clustersFrom_of_plain none [] t rfl h
  unfold fitted padded
  split
  · simp [h, all_isPlain_spaces]
  · rename_i hlt
    rw [width_of_plain h] at hlt
    exact (cutClusters_of_isSum hc.1 (by rw [hc.2]; simp [clustersWidth]; omega)).1

theorem width_fitted (columns : Nat) {t : Text} (h : t.all isPlain) :
    width (fitted columns t) = columns := by
  have hc := @clustersFrom_of_plain none [] t rfl h
  rw [width_of_plain (all_isPlain_fitted columns h)]
  unfold fitted padded
  split
  · rename_i hle
    rw [width_of_plain h] at hle ⊢
    simp only [totalWidth_append, totalWidth_spaces]; omega
  · rename_i hlt
    rw [width_of_plain h] at hlt
    exact (cutClusters_of_isSum hc.1 (by rw [hc.2]; simp [clustersWidth]; omega)).2

/-- A flag of two characters, a joined family, and a sign that becomes wide. -/
example : width (Text.ofString "👨\u200d👩") = 2 ∧ width (Text.ofString "⚠\ufe0f") = 2 := by
  decide +kernel

end TextMacros.Display
