import CucumberExpression.Proofs.Node.Descendants
import CucumberExpression.Proofs.Node.Runs

/-!
# What a line is made of

Each node of a line comes from a part of its tokens, and each token goes into one of the nodes. A
node that a run gathers is one of its items, or the alternation of them
(`content_mem_or_alternation`); the children of the alternatives are the items between the
separators (`content_mem_iff`), and two alternatives meet at each separator (`exists_neighbours`). A
node of a line is made by a run or is the leaf of a blank (`IsLine.exists_part`), and conversely
each token is a blank or belongs to a run (`IsLine.exists_run`), where it is a separator or part of
an item (`IsRun.exists_item`).
-/

set_option autoImplicit false
set_option relaxedAutoImplicit false

namespace CucumberExpression

namespace Grammar

/-! ### Items and alternatives -/

namespace RunItem

variable {items : List RunItem} {stop start : Nat} {nodes : List Node}
  {parts : List (Span × List Node)} {node : Node}

/-- The nodes among the items are those before, between and behind the separators. -/
theorem content_mem_iff :
    .content node ∈ items ↔ node ∈ (groups items).1 ∨ ∃ part ∈ (groups items).2, node ∈ part.2 := by
  induction items with
  | nil => simp [groups]
  | cons item items ih => cases item <;> simp [groups, ih, or_assoc]

/-- The separators among the items part the groups. -/
theorem separator_mem_iff {span : Span} :
    .separator span ∈ items ↔ ∃ part ∈ (groups items).2, part.1 = span := by
  induction items with
  | nil => simp [groups]
  | cons item items ih => cases item <;> simp [groups, ih, eq_comm]

theorem any_isSeparator_iff : items.any isSeparator = true ↔ (groups items).2 ≠ [] := by
  induction items with
  | nil => simp [groups]
  | cons item items ih => cases item <;> simp [groups, isSeparator, ← ih]

theorem length_partition : (partition stop start nodes parts).length = parts.length + 1 := by
  induction parts generalizing start nodes with
  | nil => rfl
  | cons part parts ih => rw [partition, List.length_cons, ih, List.length_cons]

/-- An alternative holds the nodes of one group. -/
theorem exists_group_of_partition {alternative : Node}
    (h : alternative ∈ partition stop start nodes parts) : ∃ span group,
      alternative = .branch .alternative span group ∧
        (group = nodes ∨ ∃ part ∈ parts, part.2 = group) := by
  induction parts generalizing start nodes with
  | nil => exact ⟨_, nodes, List.mem_singleton.mp h, .inl rfl⟩
  | cons part parts ih =>
    rw [partition] at h
    rcases List.mem_cons.mp h with rfl | h
    · exact ⟨_, nodes, rfl, .inl rfl⟩
    · obtain ⟨span, group, rfl, hgroup⟩ := ih h
      refine ⟨span, group, rfl, .inr ?_⟩
      rcases hgroup with rfl | ⟨other, hother, rfl⟩
      · exact ⟨part, List.mem_cons_self, rfl⟩
      · exact ⟨other, List.mem_cons_of_mem part hother, rfl⟩

/-- Every node of a group is in an alternative. -/
theorem exists_alternative (stop start : Nat) (h : node ∈ nodes ∨ ∃ part ∈ parts, node ∈ part.2) :
    ∃ alternative ∈ partition stop start nodes parts, node ∈ alternative.children := by
  induction parts generalizing start nodes with
  | nil =>
    have hnode : node ∈ nodes := by simpa using h
    exact ⟨_, List.mem_singleton_self _, hnode⟩
  | cons part parts ih =>
    rw [partition]
    rcases h with h | ⟨other, hother, h⟩
    · exact ⟨_, List.mem_cons_self, h⟩
    · have hlater : node ∈ part.2 ∨ ∃ other ∈ parts, node ∈ other.2 := by
        rcases List.mem_cons.mp hother with rfl | hother
        · exact .inl h
        · exact .inr ⟨other, hother, h⟩
      obtain ⟨alternative, hmem, hnode⟩ := ih part.1.stop hlater
      exact ⟨alternative, List.mem_cons_of_mem _ hmem, hnode⟩

/-- Two alternatives meet at each separator. -/
theorem exists_neighbours (stop start : Nat) (nodes : List Node) {part : Span × List Node}
    (h : part ∈ parts) :
    ∃ front previous next back,
      partition stop start nodes parts = front ++ previous :: next :: back ∧
        previous.span.stop = part.1.start ∧ next.span.start = part.1.stop := by
  induction parts generalizing start nodes with
  | nil => simp at h
  | cons first parts ih =>
    rw [partition]
    rcases List.mem_cons.mp h with rfl | h
    · obtain ⟨next, back, hback, hnext⟩ := exists_partition_eq_cons stop part.1.stop part.2 parts
      exact ⟨[], _, next, back, by rw [hback]; rfl, rfl, hnext⟩
    · obtain ⟨front, previous, next, back, hsplit, hprevious, hnext⟩ := ih first.1.stop first.2 h
      exact ⟨_ :: front, previous, next, back, by rw [hsplit]; rfl, hprevious, hnext⟩

/-- What a run makes are the nodes among its items, or one alternation. -/
theorem content_mem_or_alternation (h : node ∈ gather stop items) :
    .content node ∈ items ∨ items.any isSeparator = true ∧ ∃ start,
      node = .branch .alternation ⟨start, stop⟩
        (partition stop start (groups items).1 (groups items).2) := by
  cases hany : items.any isSeparator with
  | false =>
    rw [gather_of_none hany] at h
    exact .inl (content_mem_iff.mpr (.inl h))
  | true =>
    obtain ⟨start, hgather⟩ := exists_gather_of_any hany stop
    rw [hgather] at h
    exact .inr ⟨rfl, start, List.mem_singleton.mp h⟩

/-- Every node among the items of a run is somewhere in what the run makes. -/
theorem exists_mem_gather (h : .content node ∈ items) (stop : Nat) :
    ∃ top ∈ gather stop items, node ∈ top.descendants := by
  have hgroups := content_mem_iff.mp h
  cases hany : items.any isSeparator with
  | false =>
    rw [gather_of_none hany]
    rw [groups_snd_of_none hany] at hgroups
    exact ⟨node, by simpa using hgroups, node.self_mem_descendants⟩
  | true =>
    obtain ⟨start, hgather⟩ := exists_gather_of_any hany stop
    rw [hgather]
    obtain ⟨alternative, halternative, hnode⟩ := exists_alternative stop start hgroups
    refine ⟨_, List.mem_singleton_self _, Node.mem_descendants_iff.mpr (.inr ⟨_, halternative, ?_⟩)⟩
    exact Node.mem_descendants_iff.mpr (.inr ⟨node, hnode, node.self_mem_descendants⟩)

end RunItem

/-! ### Tokens and nodes -/

variable {stop : Nat} {tokens : List Token} {nodes : List Node} {items : List RunItem} {node : Node}
  {token : Token}

/-- A node in an optional part is a leaf or a parameter. -/
theorem IsInside.exists_part (h : IsInside tokens nodes) (hnode : node ∈ nodes) :
    (∃ token ∈ tokens, token.leaf = node) ∨
      ∃ group, group <:+: tokens ∧ IsParameter group node := by
  induction h with
  | nil => simp at hnode
  | @text token tokens nodes hopening hclosing hrest ih =>
    rcases List.mem_cons.mp hnode with rfl | hnode
    · exact .inl ⟨token, List.mem_cons_self, rfl⟩
    · rcases ih hnode with ⟨other, hother, hleaf⟩ | ⟨group, hwithin, hgroup⟩
      · exact .inl ⟨other, List.mem_cons_of_mem token hother, hleaf⟩
      · exact .inr ⟨group, List.infix_cons hwithin, hgroup⟩
  | @parameter group tokens parameter nodes hgroup hrest ih =>
    rcases List.mem_cons.mp hnode with rfl | hnode
    · exact .inr ⟨group, (List.prefix_append group tokens).isInfix, hgroup⟩
    · rcases ih hnode with ⟨other, hother, hleaf⟩ | ⟨later, hwithin, hlater⟩
      · exact .inl ⟨other, List.mem_append_right group hother, hleaf⟩
      · exact .inr ⟨later, hwithin.trans (List.suffix_append group tokens).isInfix, hlater⟩

/-- A node among the items of a run is made by a part of its tokens. -/
theorem IsRun.exists_part (h : IsRun tokens items) (hnode : .content node ∈ items) :
    ∃ group, group <:+: tokens ∧ IsContent group node := by
  induction h with
  | nil => simp at hnode
  | @separator token tokens items hkind hrest ih =>
    obtain ⟨group, hwithin, hgroup⟩ := ih (by simpa using hnode)
    exact ⟨group, List.infix_cons hwithin, hgroup⟩
  | @content group tokens first items hgroup hrest ih =>
    rcases List.mem_cons.mp hnode with heq | hnode
    · obtain rfl := RunItem.content.inj heq
      exact ⟨group, (List.prefix_append group tokens).isInfix, hgroup⟩
    · obtain ⟨later, hwithin, hlater⟩ := ih hnode
      exact ⟨later, hwithin.trans (List.suffix_append group tokens).isInfix, hlater⟩

/-- A token of a run is a separator, or part of one of its nodes. -/
theorem IsRun.exists_item (h : IsRun tokens items) (htoken : token ∈ tokens) :
    .separator token.span ∈ items ∨ ∃ group node, token ∈ group ∧ group <:+: tokens ∧
      IsContent group node ∧ .content node ∈ items := by
  induction h with
  | nil => simp at htoken
  | @separator first tokens items hkind hrest ih =>
    rcases List.mem_cons.mp htoken with rfl | htoken
    · exact .inl List.mem_cons_self
    · rcases ih htoken with hseparator | ⟨group, node, hmem, hwithin, hgroup, hnode⟩
      · exact .inl (List.mem_cons_of_mem _ hseparator)
      · exact .inr ⟨group, node, hmem, List.infix_cons hwithin, hgroup,
          List.mem_cons_of_mem _ hnode⟩
  | @content group tokens node items hgroup hrest ih =>
    rcases List.mem_append.mp htoken with htoken | htoken
    · exact .inr ⟨group, node, htoken, (List.prefix_append group tokens).isInfix, hgroup,
        List.mem_cons_self⟩
    · rcases ih htoken with hseparator | ⟨later, other, hmem, hwithin, hlater, hother⟩
      · exact .inl (List.mem_cons_of_mem _ hseparator)
      · exact .inr ⟨later, other, hmem, hwithin.trans (List.suffix_append group tokens).isInfix,
          hlater, List.mem_cons_of_mem _ hother⟩

/-- A node of a line is the leaf of a blank, or made by a run. -/
theorem IsLine.exists_part (h : IsLine stop tokens nodes) (hnode : node ∈ nodes) :
    (∃ blank ∈ tokens, blank.kind = .whiteSpace ∧ blank.leaf = node) ∨
      ∃ run items runStop, run <:+: tokens ∧ IsRun run items ∧
        node ∈ RunItem.gather runStop items := by
  induction h with
  | @run run items hrun => exact .inr ⟨run, items, stop, List.infix_rfl, hrun, hnode⟩
  | @blank run rest items blank nodes hrun hblank hrest ih =>
    rcases List.mem_append.mp hnode with hnode | hnode
    · exact .inr ⟨run, items, _, (List.prefix_append run _).isInfix, hrun, hnode⟩
    have htail : rest <:+: run ++ blank :: rest :=
      ((List.suffix_cons blank rest).trans (List.suffix_append run _)).isInfix
    rcases List.mem_cons.mp hnode with rfl | hnode
    · exact .inl ⟨blank, by simp, hblank, rfl⟩
    rcases ih hnode with ⟨other, hother, hpart⟩ | ⟨later, items', runStop, hwithin, hpart⟩
    · exact .inl ⟨other, htail.subset hother, hpart⟩
    · exact .inr ⟨later, items', runStop, hwithin.trans htail, hpart⟩

/-- A token of a line is a blank, or belongs to a run. -/
theorem IsLine.exists_run (h : IsLine stop tokens nodes) (htoken : token ∈ tokens) :
    token.kind = .whiteSpace ∨ ∃ run items runStop, token ∈ run ∧ run <:+: tokens ∧
      IsRun run items ∧ RunItem.gather runStop items ⊆ nodes := by
  induction h with
  | @run run items hrun =>
    exact .inr ⟨run, items, stop, htoken, List.infix_rfl, hrun, List.Subset.refl _⟩
  | @blank run rest items blank nodes hrun hblank hrest ih =>
    rcases List.mem_append.mp htoken with htoken | htoken
    · exact .inr ⟨run, items, _, htoken, (List.prefix_append run _).isInfix, hrun,
        List.subset_append_left _ _⟩
    rcases List.mem_cons.mp htoken with rfl | htoken
    · exact .inl hblank
    rcases ih htoken with hkind | ⟨later, items', runStop, hmem, hwithin, hlater, hsubset⟩
    · exact .inl hkind
    have htail : rest <:+: run ++ blank :: rest :=
      ((List.suffix_cons blank rest).trans (List.suffix_append run _)).isInfix
    refine .inr ⟨later, items', runStop, hmem, hwithin.trans htail, hlater, fun node hnode ↦ ?_⟩
    exact List.mem_append_right _ (List.mem_cons_of_mem _ (hsubset hnode))

end Grammar

end CucumberExpression
