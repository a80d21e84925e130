import Mathlib.Data.List.Nodup
import Mathlib.Data.Set.Finite.Basic
import Mathlib.Logic.Relation
import Mathlib.Order.WellFounded

/-!
# Walking a graph as if it were a tree

From every node the walk goes down to each child in turn, and then visits the node.  It
ends exactly on the finite graphs without cycles (`exists_within_iff`), visits what can be
reached (`mem_postorder`) and each node after its children (`childrenFirst_postorder`).
It keeps no account of where it has been, so it visits each node once only on a tree
(`nodup_postorder_iff`).
-/

namespace TreeWalk

variable {α : Type*} (children : α → List α)

def ChildOf (parent child : α) : Prop := child ∈ children parent

/-- The second node is the first or below it. -/
def Reaches : α → α → Prop := Relation.ReflTransGen (ChildOf children)

/-- A walk down from the node visits at most that many nodes. -/
def Within : Nat → α → Prop
  | 0, _ => False
  | n + 1, x => ∀ child ∈ children x, Within n child

instance decidableWithin : (n : Nat) → (x : α) → Decidable (Within children n x)
  | 0, _ => inferInstanceAs (Decidable False)
  | n + 1, x =>
    have := decidableWithin n
    inferInstanceAs (Decidable (∀ child ∈ children x, Within children n child))

/-- The nodes in the order they are visited. -/
def postorder : Nat → α → List α
  | 0, _ => []
  | n + 1, x => (children x).flatMap (postorder n) ++ [x]

/-- Here and further down, no node can be reached from two children of one node. -/
def TreeBelow (x : α) : Prop :=
  ∀ y, Reaches children x y →
    (children y).Pairwise fun c d => ∀ z, Reaches children c z → ¬ Reaches children d z

/-- A node stands after its children. -/
def ChildrenFirst (l : List α) : Prop :=
  ∀ before x after, l = before ++ x :: after → ∀ child ∈ children x, child ∈ before

variable {children} {x y : α} {n m : Nat}

theorem reaches_iff :
    Reaches children x y ↔ x = y ∨ ∃ child ∈ children x, Reaches children child y :=
  Relation.ReflTransGen.cases_head_iff

/-! ### Where the walk ends -/

theorem Within.succ (h : Within children n x) : Within children (n + 1) x := by
  induction n generalizing x with
  | zero => exact h.elim
  | succ n ih => exact fun child hchild => ih (h child hchild)

theorem Within.mono (hle : n ≤ m) (h : Within children n x) : Within children m x := by
  induction hle with
  | refl => exact h
  | step _ ih => exact ih.succ

theorem Within.of_child (h : Within children n x) {child : α} (hchild : child ∈ children x) :
    Within children n child := by
  cases n with
  | zero => exact h.elim
  | succ n => exact (h child hchild).succ

theorem Within.of_reaches (h : Within children n x) (hreaches : Reaches children x y) :
    Within children n y := by
  induction hreaches with
  | refl => exact h
  | tail _ hchild ih => exact ih.of_child hchild

theorem Within.not_reaches_of_child (h : Within children n x) {child : α}
    (hchild : child ∈ children x) : ¬ Reaches children child x := by
  -- A way back would be within fewer and fewer nodes.
  induction n with
  | zero => exact h.elim
  | succ n ih =>
    intro hback
    exact ih ((h child hchild).of_reaches hback) hback

theorem Within.acyclic (h : Within children n x) (hreaches : Reaches children x y) :
    ¬ Relation.TransGen (ChildOf children) y y := by
  intro hcycle
  obtain ⟨child, hchild, hback⟩ := Relation.TransGen.head'_iff.mp hcycle
  exact (h.of_reaches hreaches).not_reaches_of_child hchild hback

theorem exists_within_of_forall {l : List α} (h : ∀ child ∈ l, ∃ n, Within children n child) :
    ∃ n, ∀ child ∈ l, Within children n child := by
  induction l with
  | nil => exact ⟨0, fun _ hchild => absurd hchild List.not_mem_nil⟩
  | cons first l ih =>
    obtain ⟨n, hn⟩ := h first List.mem_cons_self
    obtain ⟨m, hm⟩ := ih fun child hchild => h child (List.mem_cons_of_mem _ hchild)
    refine ⟨max n m, fun child hchild => ?_⟩
    rcases List.mem_cons.mp hchild with rfl | hchild
    · exact hn.mono (by omega)
    · exact (hm child hchild).mono (by omega)

/-- On a finite graph without cycles the walk ends. -/
theorem exists_within (hfinite : {y | Reaches children x y}.Finite)
    (hacyclic : ∀ y, Reaches children x y → ¬ Relation.TransGen (ChildOf children) y y) :
    ∃ n, Within children n x := by
  have := hfinite.to_subtype
  let Below (a b : {y | Reaches children x y}) : Prop :=
    Relation.TransGen (ChildOf children) b.1 a.1
  have : IsTrans _ Below := ⟨fun _ _ _ hab hbc => hbc.trans hab⟩
  have : Std.Irrefl Below := ⟨fun a => hacyclic a.1 a.2⟩
  have hwf : WellFounded Below := Finite.wellFounded_of_trans_of_irrefl Below
  have hall : ∀ a : {y | Reaches children x y}, ∃ n, Within children n a.1 := by
    intro a
    induction a using hwf.induction with
    | _ a ih =>
      have hbelow : ∀ child ∈ children a.1, ∃ n, Within children n child :=
        fun child hchild => ih ⟨child, a.2.tail hchild⟩ (.single hchild)
      obtain ⟨n, hn⟩ := exists_within_of_forall hbelow
      exact ⟨n + 1, hn⟩
  exact hall ⟨x, .refl⟩

/-! ### What the walk visits -/

theorem mem_postorder (h : Within children n x) :
    y ∈ postorder children n x ↔ Reaches children x y := by
  induction n generalizing x with
  | zero => exact h.elim
  | succ n ih =>
    rw [postorder, List.mem_append, List.mem_flatMap, List.mem_singleton, reaches_iff]
    constructor
    · rintro (⟨child, hchild, hmem⟩ | rfl)
      · exact .inr ⟨child, hchild, (ih (h child hchild)).mp hmem⟩
      · exact .inl rfl
    · rintro (rfl | ⟨child, hchild, hreaches⟩)
      · exact .inr rfl
      · exact .inl ⟨child, hchild, (ih (h child hchild)).mpr hreaches⟩

/-- A walk that has ended does not change with more to go. -/
theorem postorder_of_le (h : Within children n x) (hle : n ≤ m) :
    postorder children m x = postorder children n x := by
  induction n generalizing m x with
  | zero => exact h.elim
  | succ n ih =>
    obtain ⟨m, rfl⟩ : ∃ k, m = k + 1 := ⟨m - 1, by omega⟩
    have hbelow : (children x).flatMap (postorder children m) =
        (children x).flatMap (postorder children n) :=
      List.flatMap_congr fun child hchild => ih (h child hchild) (by omega)
    rw [postorder, postorder, hbelow]

/-- **The walk ends exactly on the finite graphs without cycles.** -/
theorem exists_within_iff : (∃ n, Within children n x) ↔ {y | Reaches children x y}.Finite ∧
    ∀ y, Reaches children x y → ¬ Relation.TransGen (ChildOf children) y y := by
  constructor
  · rintro ⟨n, h⟩
    refine ⟨(List.finite_toSet (postorder children n x)).subset ?_, fun y => h.acyclic⟩
    exact fun y hy => (mem_postorder h).mpr hy
  · intro h
    exact exists_within h.1 h.2

theorem ChildrenFirst.of_append {l l' : List α} (h : ChildrenFirst children (l ++ l')) :
    ChildrenFirst children l := by
  rintro before x after rfl child hchild
  exact h before x (after ++ l') (by simp) child hchild

theorem ChildrenFirst.append {l l' : List α} (h : ChildrenFirst children l)
    (h' : ChildrenFirst children l') : ChildrenFirst children (l ++ l') := by
  intro before x after heq child hchild
  rcases List.append_eq_append_iff.mp heq with ⟨between, rfl, hl'⟩ | ⟨between, hl, hafter⟩
  · -- the node is in the second list
    exact List.mem_append_right l (h' between x after hl' child hchild)
  · cases between with
    | nil =>
      have hmem := h' [] x after hafter.symm child hchild
      cases hmem
    | cons first between =>
      obtain ⟨rfl, -⟩ := List.cons.inj hafter
      exact h before x between hl child hchild

theorem ChildrenFirst.flatMap {β : Type*} {f : β → List α} {l : List β}
    (h : ∀ b ∈ l, ChildrenFirst children (f b)) : ChildrenFirst children (l.flatMap f) := by
  induction l with
  | nil =>
    intro before x after heq
    simp at heq
  | cons b l ih =>
    rw [List.flatMap_cons]
    exact (h b List.mem_cons_self).append (ih fun b hb => h b (List.mem_cons_of_mem _ hb))

theorem ChildrenFirst.concat {l : List α} (h : ChildrenFirst children l)
    (hchildren : ∀ child ∈ children x, child ∈ l) : ChildrenFirst children (l ++ [x]) := by
  intro before y after heq child hchild
  rcases List.append_eq_append_iff.mp heq with ⟨between, rfl, hlast⟩ | ⟨between, hl, hafter⟩
  · cases between with
    | nil =>
      obtain ⟨rfl, -⟩ := List.cons.inj hlast
      exact List.mem_append_left _ (hchildren child hchild)
    | cons first between => simp at hlast
  · cases between with
    | nil =>
      obtain ⟨rfl, -⟩ := List.cons.inj hafter
      have hmem := hchildren child hchild
      rwa [hl, List.append_nil] at hmem
    | cons first between =>
      obtain ⟨rfl, -⟩ := List.cons.inj hafter
      exact h before y between hl child hchild

/-- Each node is visited after its children. -/
theorem childrenFirst_postorder (h : Within children n x) :
    ChildrenFirst children (postorder children n x) := by
  induction n generalizing x with
  | zero => exact h.elim
  | succ n ih =>
    refine (ChildrenFirst.flatMap fun child hchild => ih (h child hchild)).concat ?_
    intro child hchild
    exact List.mem_flatMap.mpr ⟨child, hchild, (mem_postorder (h child hchild)).mpr .refl⟩

/-! ### When each node is visited once -/

theorem treeBelow_iff : TreeBelow children x ↔
    (∀ child ∈ children x, TreeBelow children child) ∧
      (children x).Pairwise fun c d => ∀ z, Reaches children c z → ¬ Reaches children d z := by
  constructor
  · intro h
    exact ⟨fun child hchild y hy => h y (.head hchild hy), h x .refl⟩
  · intro h y hy
    rcases reaches_iff.mp hy with rfl | ⟨child, hchild, hreaches⟩
    · exact h.2
    · exact h.1 child hchild y hreaches

/-- **Each node is visited once** exactly when the graph is a tree. -/
theorem nodup_postorder_iff (h : Within children n x) :
    (postorder children n x).Nodup ↔ TreeBelow children x := by
  induction n generalizing x with
  | zero => exact h.elim
  | succ n ih =>
    have hlast : x ∉ (children x).flatMap (postorder children n) := by
      intro hmem
      obtain ⟨child, hchild, hmem⟩ := List.mem_flatMap.mp hmem
      exact h.not_reaches_of_child hchild ((mem_postorder (h child hchild)).mp hmem)
    have hdisjoint : ∀ {c d : α}, c ∈ children x → d ∈ children x →
        ((Function.onFun List.Disjoint (postorder children n) c d) ↔
          ∀ z, Reaches children c z → ¬ Reaches children d z) := by
      intro c d hc hd
      show (∀ ⦃z⦄, _ → _ → False) ↔ _
      simp only [mem_postorder (h c hc), mem_postorder (h d hd)]
    rw [postorder, List.nodup_append_comm, List.singleton_append, List.nodup_cons,
      List.nodup_flatMap, List.Pairwise.iff_of_mem hdisjoint, treeBelow_iff]
    constructor
    · intro hnodup
      exact ⟨fun child hchild => (ih (h child hchild)).mp (hnodup.2.1 child hchild), hnodup.2.2⟩
    · intro htree
      exact ⟨hlast, fun child hchild => (ih (h child hchild)).mpr (htree.1 child hchild), htree.2⟩

end TreeWalk
