import PermissionGraph.Proofs.Yaml.Body
import PermissionGraph.Proofs.Yaml.Readable

/-!
# Reading a file of defaults back

The tokens of a written configuration are those of a mapping that holds a truth value and a list of
texts, and so the configuration is read back from them.
-/

namespace PermissionGraph

namespace Yaml

namespace Reading

variable {handles : List (String × String)} {anchors : List (String × Nat)} {ts : List Token}

def textNode (entry : String) : Node := .scalar none ⟨none, Style.choose entry, entry⟩

theorem node_scalar (block indentless : Bool) (style : Style) (text : String) (fuel : Nat) :
    node block indentless (fuel + 1) ⟨handles, anchors, .scalar style text :: ts⟩ =
      some (.scalar none ⟨none, style, text⟩, ⟨handles, anchors, ts⟩) := rfl

theorem blockNode_scalar (indentless : Bool) {ends : List Token} (style : Style) (text : String)
    (fuel : Nat) (hends : ends.contains (.scalar style text) = false) :
    blockNode indentless ends (fuel + 2) ⟨handles, anchors, .scalar style text :: ts⟩ =
      some (.scalar none ⟨none, style, text⟩, ⟨handles, anchors, ts⟩) := by
  rw [blockNode, isAt, List.head?_cons, Option.any_some, hends, if_neg Bool.false_ne_true]
  exact node_scalar true indentless style text fuel

theorem indentlessItems_blockEntry (fuel : Nat) :
    indentlessItems (fuel + 1) ⟨handles, anchors, .blockEntry :: ts⟩ =
      (blockNode false [.blockEntry, .key, .value, .blockEnd] fuel ⟨handles, anchors, ts⟩).bind
        fun item => (indentlessItems fuel item.2).map fun items =>
          (item.1 :: items.1, items.2) := by
  rw [indentlessItems]
  simp only [skip, List.tail_cons, Option.bind_eq_bind, Option.map_eq_bind]
  rfl

theorem indentlessItems_entries (entries : List String) (fuel : Nat) :
    indentlessItems (fuel + entries.length + 3)
        ⟨handles, anchors, entries.flatMap Scanner.itemTokens ++ .blockEnd :: ts⟩ =
      some (entries.map textNode, ⟨handles, anchors, .blockEnd :: ts⟩) := by
  induction entries with
  | nil => rfl
  | cons entry entries ih =>
    have hfuel : fuel + (entry :: entries).length + 3 = fuel + entries.length + 3 + 1 := by
      rw [List.length_cons]
      omega
    rw [hfuel, List.flatMap_cons, Scanner.itemTokens, List.append_assoc, List.cons_append,
      List.singleton_append, indentlessItems_blockEntry, blockNode_scalar _ _ _ _ rfl,
      Option.bind_some, ih, Option.map_some, List.map_cons, textNode]

theorem blockNode_entries (entries : List String) (hne : entries ≠ []) (fuel : Nat) :
    blockNode true [.key, .value, .blockEnd] (fuel + entries.length + 5)
        ⟨handles, anchors, entries.flatMap Scanner.itemTokens ++ .blockEnd :: ts⟩ =
      some (.sequence none (entries.map textNode), ⟨handles, anchors, .blockEnd :: ts⟩) := by
  obtain ⟨entry, entries, rfl⟩ := List.exists_cons_of_ne_nil hne
  have hnode : blockNode true [.key, .value, .blockEnd] (fuel + (entry :: entries).length + 5)
      ⟨handles, anchors, (entry :: entries).flatMap Scanner.itemTokens ++ .blockEnd :: ts⟩ =
      (indentlessItems (fuel + (entry :: entries).length + 3) ⟨handles, anchors,
        (entry :: entries).flatMap Scanner.itemTokens ++ .blockEnd :: ts⟩).bind fun items =>
          some (.sequence none items.1, items.2) := rfl
  rw [hnode, indentlessItems_entries, Option.bind_some]

theorem blockEntries_scalar (fuel : Nat) (style : Style) (text : String) :
    blockEntries (fuel + 3) ⟨handles, anchors, .key :: .scalar style text :: .value :: ts⟩ =
      (blockNode true [.key, .value, .blockEnd] (fuel + 2) ⟨handles, anchors, ts⟩).bind fun value =>
        (blockEntries (fuel + 2) value.2).bind fun entries =>
          some ((.scalar none ⟨none, style, text⟩, value.1) :: entries.1, entries.2) := rfl

def configNode (enabled : Bool) (entries : List String) : Node :=
  .mapping none
    [(.scalar none ⟨none, .plain, "enabled"⟩, .scalar none ⟨none, .plain, toString enabled⟩),
      (.scalar none ⟨none, .plain, "defaults"⟩, .sequence none (entries.map textNode))]

theorem node_config (enabled : Bool) (entries : List String) (hne : entries ≠ []) (fuel : Nat) :
    node true false (fuel + entries.length + 8)
        ⟨handles, anchors, Scanner.configTokens enabled entries⟩ =
      some (configNode enabled entries, ⟨handles, anchors, []⟩) := by
  have hnode : node true false (fuel + entries.length + 8)
      ⟨handles, anchors, Scanner.configTokens enabled entries⟩ =
      (blockEntries (fuel + entries.length + 7)
        ⟨handles, anchors, (Scanner.configTokens enabled entries).tail⟩).bind fun fields =>
          some (.mapping none fields.1, fields.2) := rfl
  rw [hnode, Scanner.configTokens, List.tail_cons, blockEntries_scalar,
    blockNode_scalar _ _ _ _ rfl, Option.bind_some, blockEntries_scalar,
    blockNode_entries entries hne]
  rfl

end Reading

theorem ofTokens?_config (enabled : Bool) (entries : List String) (hne : entries ≠ []) :
    Document.ofTokens? (Scanner.configTokens enabled entries) =
      some (some (Document.ofRoot (Reading.configNode enabled entries))) := by
  have hlength : ∃ fuel, 3 * (Scanner.configTokens enabled entries).length + 3 =
      fuel + entries.length + 8 := by
    refine ⟨3 * (Scanner.configTokens enabled entries).length + 3 - entries.length - 8, ?_⟩
    have hitems : entries.length ≤ (entries.flatMap Scanner.itemTokens).length := by
      simp [List.length_flatMap, Scanner.itemTokens, List.map_const']
      omega
    rw [Scanner.configTokens]
    simp only [List.length_cons, List.length_append]
    omega
  obtain ⟨fuel, hfuel⟩ := hlength
  have hroot : Document.readRoot false [] (Scanner.configTokens enabled entries) =
      some (Reading.configNode enabled entries, []) := by
    have hnode : Document.readRoot false [] (Scanner.configTokens enabled entries) =
        (Reading.node true false (3 * (Scanner.configTokens enabled entries).length + 3)
          ⟨Document.defaultHandles, [], Scanner.configTokens enabled entries⟩).map
            fun root => (root.1, root.2.tokens) := rfl
    rw [hnode, hfuel, Reading.node_config enabled entries hne]
    rfl
  have hdirectives : Document.directives false [] (Scanner.configTokens enabled entries) =
      some ([], Scanner.configTokens enabled entries) := rfl
  have htokens : Document.ofTokens? (Scanner.configTokens enabled entries) =
      (Document.readRoot false [] (Scanner.configTokens enabled entries)).bind fun root =>
        if root.2.all (· == .documentEnd) then some (some (Document.ofRoot root.1)) else none := rfl
  rw [htokens, hroot]
  rfl

end Yaml

namespace DefaultsFile

open Yaml

section

variable {d : Document} {fields : Fields} {tag : Option String} {style : Style} {value : Node}

theorem add_enabled {enabled : Bool} (hnew : fields.enabled = none)
    (hvalue : (d.follow value).bind flag? = some enabled) :
    Fields.add d fields (.scalar none ⟨tag, style, "enabled"⟩, value) =
      some { fields with enabled := some enabled } := by
  have htext : text? d (.scalar none ⟨tag, style, "enabled"⟩) = some "enabled" := rfl
  rw [Fields.add, htext]
  simp [hnew, hvalue]

theorem add_defaults {entries : List String} (hnew : fields.defaults = none)
    (hvalue : (d.follow value).bind (texts? d) = some entries) :
    Fields.add d fields (.scalar none ⟨tag, style, "defaults"⟩, value) =
      some { fields with defaults := some entries } := by
  have htext : text? d (.scalar none ⟨tag, style, "defaults"⟩) = some "defaults" := rfl
  rw [Fields.add, htext]
  simp [hnew, hvalue]

theorem mapM_textNode (d : Document) (entries : List String) :
    (entries.map Reading.textNode).mapM (text? d) = some entries := by
  induction entries with
  | nil => rfl
  | cons entry entries ih =>
    have htext : text? d (Reading.textNode entry) = some entry := rfl
    rw [List.map_cons, List.mapM_cons, htext]
    simp [ih]

end

theorem ofDocument?_config (enabled : Bool) (entries : List String) :
    ofDocument? (Document.ofRoot (Reading.configNode enabled entries)) = some ⟨enabled, entries⟩ := by
  generalize hd : Document.ofRoot (Reading.configNode enabled entries) = d
  have hroot : d.follow d.root = some (Reading.configNode enabled entries) := by
    rw [← hd]
    rfl
  have hflag : (d.follow (.scalar none ⟨none, .plain, toString enabled⟩)).bind flag? =
      some enabled := by
    cases enabled <;> rfl
  have htexts : (d.follow (.sequence none (entries.map Reading.textNode))).bind (texts? d) =
      some entries := mapM_textNode d entries
  rw [ofDocument?, hroot, Option.bind_some, Reading.configNode, ofNode?, List.foldlM_cons,
    add_enabled rfl hflag]
  simp only [Option.bind_eq_bind, Option.bind_some]
  rw [List.foldlM_cons, add_defaults rfl htexts]
  rfl

def listText (entries : List String) : List Char :=
  if entries.isEmpty then "defaults: []\n".toList
  else "defaults:\n".toList ++ entries.flatMap itemLine

theorem toList_body (c : Config) :
    (body c).toList = Scanner.flagLine c.enabled ++ listText c.defaults := by
  have hbody : body c =
    "enabled: " ++ toString c.enabled ++ "\n" ++ String.ofList (listText c.defaults) := rfl
  have hlist : (body c).toList = "enabled: ".toList ++ (toString c.enabled).toList ++ "\n".toList ++
      listText c.defaults := by
    simp only [hbody, String.toList_append, String.toList_ofList]
  exact hlist.trans (congrArg (· ++ listText c.defaults) (List.append_assoc _ _ _))

theorem printable_body (c : Config) : Printable (body c).toList := by
  have hflag : Printable (Scanner.flagLine c.enabled) := by
    cases c.enabled <;> exact List.all_eq_true.mp (by decide +kernel)
  rw [toList_body, listText]
  refine hflag.append ?_
  split
  · exact List.all_eq_true.mp (by decide +kernel)
  · refine .append (List.all_eq_true.mp (by decide +kernel)) ?_
    exact .flatMap fun entry _ => printable_itemLine entry

theorem length_le_items (entries : List String) :
    2 * entries.length ≤ (entries.flatMap itemLine).length := by
  induction entries with
  | nil => exact Nat.le_refl 0
  | cons entry entries ih =>
    rw [List.flatMap_cons, itemLine, endLine_item, List.length_append, List.length_cons,
      List.length_cons, List.length_cons]
    omega

theorem scan_body (c : Config) (hne : c.defaults ≠ []) :
    scan (body c).toList = some (Scanner.configTokens c.enabled c.defaults) := by
  have hlist : listText c.defaults = "defaults:\n".toList ++ c.defaults.flatMap itemLine := by
    rw [listText, List.isEmpty_eq_false_iff.mpr hne, if_neg Bool.false_ne_true]
  have hlength : "defaults:\n".toList.length = 10 := rfl
  have hitems := length_le_items c.defaults
  rw [scan, normalizeBreaks_of_printable (printable_body c), toList_body, hlist]
  apply Scanner.run_of_le _ (Scanner.run_config c.enabled c.defaults)
  rw [List.length_append, List.length_append, hlength]
  omega

/-- What is written of a configuration is read back. -/
theorem parse_body (c : Config) : parse (body c) = .ok c := by
  obtain ⟨enabled, entries⟩ := c
  by_cases hne : entries = []
  · subst hne
    cases enabled <;> decide +kernel
  · have hread : Document.read (body ⟨enabled, entries⟩).toList =
        some (some (Document.ofRoot (Reading.configNode enabled entries))) := by
      rw [Document.read, all_isReadable_of_printable (printable_body _), if_pos rfl,
        scan_body _ hne]
      exact ofTokens?_config enabled entries hne
    rw [parse, hread]
    simp only [ofDocument?_config]

end DefaultsFile

end PermissionGraph
