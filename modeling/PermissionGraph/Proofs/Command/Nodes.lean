import PermissionGraph.Command
import Mathlib.Data.List.Infix
import Mathlib.Data.String.Basic

/-!
# Nodes of a command

The nodes of a command stand in ascending order whatever edits made it, so none stands twice. Its
nodes are consulted from the first up to the one that settles whether the command is open, and no
shorter part of them would settle it.
-/

namespace PermissionGraph.Command

inductive Edit
  | addNode (node : String)
  | removeNode (node : String)
  | setRequireAll (all : Bool)

def Edit.apply (c : Command) : Edit → Command
  | addNode node => c.addNode node
  | removeNode node => c.removeNode node
  | setRequireAll all => { c with requireAll := all }

def edited (c : Command) (edits : List Edit) : Command := edits.foldl Edit.apply c

variable {c : Command} {node n : String} {ns : List String}

theorem mem_insertNode : n ∈ insertNode node ns ↔ n = node ∨ n ∈ ns := by
  induction ns with
  | nil => rw [insertNode, List.mem_singleton, List.mem_nil_iff, or_false]
  | cons m ns ih =>
    rw [insertNode]
    split
    · next hm =>
      rw [← hm, List.mem_cons]
      tauto
    · split
      · rw [List.mem_cons, ih, List.mem_cons]
        tauto
      · rw [List.mem_cons]

theorem ascending_insertNode (h : ns.Pairwise (· < ·)) :
    (insertNode node ns).Pairwise (· < ·) := by
  induction ns with
  | nil => exact List.pairwise_singleton _ _
  | cons m ns ih =>
    obtain ⟨hm, hns⟩ := List.pairwise_cons.mp h
    rw [insertNode]
    split
    · exact h
    · next hne =>
      split
      · next hlt =>
        refine List.pairwise_cons.mpr ⟨fun n hn => ?_, ih hns⟩
        rcases mem_insertNode.mp hn with rfl | hn
        · exact hlt
        · exact hm n hn
      · next hge =>
        have hlt : node < m := lt_of_le_of_ne (not_lt.mp hge) (Ne.symm hne)
        refine List.pairwise_cons.mpr ⟨fun n hn => ?_, h⟩
        rcases List.mem_cons.mp hn with rfl | hn
        · exact hlt
        · exact hlt.trans (hm n hn)

/-- No edit takes the nodes out of their order, or renames the command. -/
theorem ascending_edited (h : c.nodes.Pairwise (· < ·)) (edits : List Edit) :
    (c.edited edits).nodes.Pairwise (· < ·) ∧ (c.edited edits).name = c.name := by
  induction edits generalizing c with
  | nil => exact ⟨h, rfl⟩
  | cons edit edits ih =>
    have hkept : (edit.apply c).nodes.Pairwise (· < ·) ∧ (edit.apply c).name = c.name := by
      cases edit with
      | addNode node => exact ⟨ascending_insertNode h, rfl⟩
      | removeNode node => exact ⟨h.filter _, rfl⟩
      | setRequireAll all => exact ⟨h, rfl⟩
    obtain ⟨hnodes, hname⟩ := ih hkept.1
    exact ⟨hnodes, hname.trans hkept.2⟩

variable {held held' : String → Bool} {wanted : Bool} {nodes : List String}

theorem any_wanted_congr (h : ∀ n ∈ ns, held' n = held n) :
    ns.any (held' · == wanted) = ns.any (held · == wanted) := by
  rw [Bool.eq_iff_iff, List.any_eq_true, List.any_eq_true]
  exact exists_congr fun n => and_congr_right fun hn => by rw [h n hn]

/-- The nodes up to the first that is held, or is not, as `wanted` says. -/
def consultedFor (held : String → Bool) (wanted : Bool) : List String → List String
  | [] => []
  | n :: ns => if held n = wanted then [n] else n :: consultedFor held wanted ns

theorem consultedFor_initial : consultedFor held wanted ns <+: ns := by
  induction ns with
  | nil => exact List.prefix_refl []
  | cons n ns ih =>
    rw [consultedFor]
    split
    · exact List.prefix_append [n] ns
    · exact (List.prefix_cons_inj n).mpr ih

theorem any_consultedFor :
    (consultedFor held wanted ns).any (held · == wanted) = ns.any (held · == wanted) := by
  induction ns with
  | nil => rfl
  | cons n ns ih =>
    rw [consultedFor]
    split
    · next hn => simp [hn]
    · rw [List.any_cons, List.any_cons, ih]

theorem consultedFor_congr (h : ∀ n ∈ consultedFor held wanted ns, held' n = held n) :
    consultedFor held' wanted ns = consultedFor held wanted ns := by
  induction ns with
  | nil => rfl
  | cons n ns ih =>
    rw [consultedFor] at h ⊢
    rw [consultedFor]
    by_cases hn : held n = wanted
    · rw [if_pos hn] at h ⊢
      rw [if_pos ((h n (List.mem_singleton_self n)).trans hn)]
    · rw [if_neg hn] at h ⊢
      obtain ⟨hhead, htail⟩ := List.forall_mem_cons.mp h
      rw [if_neg (hhead ▸ hn), ih htail]

/-- Whether one of `ns` is as `wanted` says depends on no answers but those for `nodes`. -/
def Settles (held : String → Bool) (wanted : Bool) (ns nodes : List String) : Prop :=
  ∀ held' : String → Bool, (∀ node ∈ nodes, held' node = held node) →
    ns.any (held' · == wanted) = ns.any (held · == wanted)

theorem settles_consultedFor : Settles held wanted ns (consultedFor held wanted ns) := by
  intro held' h
  calc
    ns.any (held' · == wanted) = (consultedFor held' wanted ns).any (held' · == wanted) :=
      any_consultedFor.symm
    _ = (consultedFor held wanted ns).any (held · == wanted) := by
      rw [consultedFor_congr h, any_wanted_congr h]
    _ = ns.any (held · == wanted) := any_consultedFor

theorem Settles.of_cons (h : Settles held wanted (n :: ns) (n :: nodes)) (hn : held n ≠ wanted)
    (hnew : n ∉ ns) : Settles held wanted ns nodes := by
  intro held' hheld'
  have hns : ∀ m ∈ ns, Function.update held' n (held n) m = held' m := by
    intro m hm
    have hne : m ≠ n := fun heq => hnew (heq ▸ hm)
    exact Function.update_of_ne hne _ _
  have hagree : ∀ node ∈ n :: nodes, Function.update held' n (held n) node = held node := by
    intro node hnode
    by_cases heq : node = n
    · rw [heq, Function.update_self]
    · rw [Function.update_of_ne heq]
      exact hheld' node ((List.mem_cons.mp hnode).resolve_left heq)
  have hany := h _ hagree
  rw [List.any_cons, List.any_cons, Function.update_self, beq_false_of_ne hn, Bool.false_or,
    Bool.false_or] at hany
  rw [← hany, any_wanted_congr hns]

theorem consultedFor_least (hns : ns.Nodup) (hnodes : nodes <+: ns)
    (h : Settles held wanted ns nodes) : consultedFor held wanted ns <+: nodes := by
  induction ns generalizing nodes with
  | nil => exact List.nil_prefix
  | cons n ns ih =>
    obtain ⟨hnew, hrest⟩ := List.nodup_cons.mp hns
    cases nodes with
    | nil =>
      -- without an answer the node could be either
      have hone := h (fun _ => wanted) nofun
      have hother := h (fun _ => !wanted) nofun
      have hdiffer := hone.trans hother.symm
      simp at hdiffer
    | cons m nodes =>
      obtain ⟨rfl, htail⟩ := List.cons_prefix_cons.mp hnodes
      rw [consultedFor]
      split
      · exact List.prefix_append [m] nodes
      · next hm => exact (List.prefix_cons_inj m).mpr (ih hrest htail (h.of_cons hm hnew))

def opensTo (c : Command) (held : String → Bool) : Bool :=
  c.nodes.isEmpty || if c.requireAll then c.nodes.all held else c.nodes.any held

def consulted (c : Command) (held : String → Bool) : List String :=
  consultedFor held (!c.requireAll) c.nodes

def Decides (c : Command) (held : String → Bool) (nodes : List String) : Prop :=
  ∀ held' : String → Bool, (∀ node ∈ nodes, held' node = held node) →
    c.opensTo held' = c.opensTo held

theorem opensTo_iff : c.opensTo held = true ↔
    c.nodes = [] ∨ (c.requireAll = true ∧ ∀ node ∈ c.nodes, held node = true) ∨
      (c.requireAll = false ∧ ∃ node ∈ c.nodes, held node = true) := by
  cases hall : c.requireAll <;> simp [opensTo, hall]

theorem opensTo_of_nonempty (h : c.nodes ≠ []) (held : String → Bool) :
    c.opensTo held = (c.requireAll ^^ c.nodes.any (held · == !c.requireAll)) := by
  have hnonempty : c.nodes.isEmpty = false := by simpa using h
  rw [opensTo, hnonempty, Bool.false_or]
  cases c.requireAll with
  | false => simp
  | true => simp [List.not_any_eq_all_not]

theorem decides_iff_settles (h : c.nodes ≠ []) :
    c.Decides held nodes ↔ Settles held (!c.requireAll) c.nodes nodes := by
  simp only [Decides, Settles, opensTo_of_nonempty h, Bool.xor_right_inj]

theorem decides_consulted (c : Command) (held : String → Bool) :
    c.Decides held (c.consulted held) := by
  by_cases h : c.nodes = []
  · intro held' _
    simp [opensTo, h]
  · exact (decides_iff_settles h).mpr settles_consultedFor

theorem consulted_least (hc : c.nodes.Nodup) (hnodes : nodes <+: c.nodes)
    (h : c.Decides held nodes) : c.consulted held <+: nodes := by
  by_cases hempty : c.nodes = []
  · rw [consulted, hempty, consultedFor]
    exact List.nil_prefix
  · exact consultedFor_least hc hnodes ((decides_iff_settles hempty).mp h)

end PermissionGraph.Command
