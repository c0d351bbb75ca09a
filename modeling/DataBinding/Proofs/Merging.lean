/-
Merged lists without the table. Types are merged one after the other, and
each takes over the finished lists of its ancestors, in which everything
inherited stands already, shadowed as the ancestor saw it. The lists are
nevertheless what one gets by asking every type of the chain for its own
properties alone (`merged_of_direct`).

# From the table to the list

At the moment a type is merged, the table holds every listed ancestor and
nothing else that the type looks at; so the table may be read off the
final list (`mem_mergeAll`), and the order of merging is gone.

# From finished lists to own properties

What an ancestor hands down beyond its own accessors is offered twice: its
hand-written properties, and those of its ancestors, have been offered by
the descendant's own walk before; what the ancestor has from farther
ancestors is offered by these in turn, since they stand behind it in the
descendant's chain as well. The induction is along the chain, from its far
end, with any set of taken keys that holds the hand-written ones
(`firstOffers_handedDown`).
-/
import DataBinding.Proofs.Analysis
import DataBinding.Proofs.FirstOffers

namespace DataBinding

variable {schema : Schema}

-- ============================================================= the table

/-- The table that finished types leave behind. -/
def tableOf (types : List TypeDescriptor) : List (String × List Property) :=
  types.map fun type => (type.fullName, type.merged)

theorem keys_tableOf (types : List TypeDescriptor) :
    (tableOf types).map Prod.fst = types.map (·.fullName) := by
  unfold tableOf
  rw [List.map_map]
  rfl

theorem lookup_tableOf (types : List TypeDescriptor) (name : String) :
    (tableOf types).lookup name
      = (types.find? (·.fullName == name)).map (·.merged) := by
  induction types with
  | nil => rfl
  | cons type rest ih =>
    show ((type.fullName, type.merged) :: tableOf rest).lookup name = _
    by_cases same : type.fullName = name
    · rw [List.find?_cons_of_pos (by simpa using same), same, List.lookup_cons_self]
      rfl
    · rw [List.find?_cons_of_neg (by simpa using same), List.lookup_cons, ih]
      have other : (name == type.fullName) = false := by simpa using Ne.symm same
      rw [other]

/-- A table with no entry of a name is passed over. -/
theorem lookup_append_of_not_mem {table : List (String × List Property)} {name : String}
    (fresh : name ∉ table.map Prod.fst) (others : List (String × List Property)) :
    (table ++ others).lookup name = others.lookup name := by
  induction table with
  | nil => rfl
  | cons entry rest ih =>
    rw [List.map_cons, List.mem_cons, not_or] at fresh
    have other : (name == entry.1) = false := by simpa using fresh.1
    rw [List.cons_append, List.lookup_cons, other]
    exact ih fresh.2

/-- An entry may move in front of a table that lacks its name. -/
theorem lookup_append_cons {table : List (String × List Property)} {name : String}
    (fresh : name ∉ table.map Prod.fst) (merged : List Property)
    (others : List (String × List Property)) (wanted : String) :
    (table ++ (name, merged) :: others).lookup wanted
      = ((name, merged) :: table ++ others).lookup wanted := by
  by_cases same : wanted = name
  · subst same
    rw [lookup_append_of_not_mem fresh, List.lookup_cons_self, List.cons_append,
      List.lookup_cons_self]
  · have other : (wanted == name) = false := by simpa using same
    rw [List.lookup_append, List.lookup_cons, other, List.cons_append, List.lookup_cons,
      other, List.lookup_append]

-- ============================================================== the run

/-- Merging looks up the members of the chain and nothing else. -/
theorem merge_congr {type : ExtractedType} {done others : List (String × List Property)}
    (same : ∀ ancestor ∈ type.chain, done.lookup ancestor = others.lookup ancestor) :
    type.merge schema done = type.merge schema others := by
  have handedDown : (type.chain.flatMap fun ancestor =>
        ((done.lookup ancestor).getD []).map Property.inherited)
      = type.chain.flatMap fun ancestor =>
        ((others.lookup ancestor).getD []).map Property.inherited :=
    List.flatMap_congr fun ancestor inChain => by rw [same ancestor inChain]
  unfold ExtractedType.merge ExtractedType.candidates
  rw [handedDown]

/-- The first type is finished against the table so far, the others with
its entry added. -/
theorem mergeAll_cons (done : List (String × List Property)) (first : ExtractedType)
    (rest : List ExtractedType) :
    (mergeAll schema done (first :: rest)).value
      = (first.finish (first.merge schema done)).value
        :: (mergeAll schema ((first.fullName,
            (first.finish (first.merge schema done)).value.merged) :: done) rest).value :=
  rfl

/-- Merging keeps the names. -/
theorem names_of_mergeAll (done : List (String × List Property))
    (types : List ExtractedType) :
    (mergeAll schema done types).value.map (·.fullName) = types.map (·.fullName) := by
  have outlines := congrArg (List.map TypeOutline.fullName)
    (@outlines_of_mergeAll schema done types)
  rw [List.map_map, List.map_map] at outlines
  exact outlines

/-- Every finished type is merged against the table of all finished types:
those of its ancestors that are among them have been finished before, and
the other entries it does not read. -/
theorem mem_mergeAll {done : List (String × List Property)} {types : List ExtractedType}
    {type : TypeDescriptor} (distinct : (types.map (·.fullName)).Nodup)
    (acyclic : ∀ t ∈ types, t.fullName ∉ t.chain)
    (ordered : types.Pairwise fun a b => b.fullName ∉ a.chain)
    (finished : type ∈ (mergeAll schema done types).value) :
    ∃ extracted ∈ types, type = (extracted.finish
      (extracted.merge schema
        (tableOf (mergeAll schema done types).value ++ done))).value := by
  induction types generalizing done with
  | nil => cases finished
  | cons first rest ih =>
    rw [List.map_cons, List.nodup_cons] at distinct
    obtain ⟨firstOrdered, restOrdered⟩ := List.pairwise_cons.1 ordered
    rw [mergeAll_cons] at finished ⊢
    generalize headIs : (first.finish (first.merge schema done)).value = head
      at finished ⊢
    have headName : head.fullName = first.fullName := by rw [← headIs]; rfl
    rcases List.mem_cons.1 finished with rfl | inTail
    · refine ⟨first, List.mem_cons_self, ?_⟩
      have unread : ∀ ancestor ∈ first.chain, ancestor ∉ (tableOf (type :: (mergeAll schema
          ((first.fullName, type.merged) :: done) rest).value)).map Prod.fst := by
        intro ancestor inChain
        rw [keys_tableOf, List.map_cons, names_of_mergeAll, headName, List.mem_cons, not_or]
        constructor
        · intro itself
          exact acyclic first List.mem_cons_self (itself ▸ inChain)
        · intro later
          obtain ⟨descendant, listed, rfl⟩ := List.mem_map.1 later
          exact firstOrdered descendant listed inChain
      rw [merge_congr fun ancestor inChain =>
        lookup_append_of_not_mem (unread ancestor inChain) done]
      exact headIs.symm
    · obtain ⟨extracted, listed, mergedAs⟩ := ih distinct.2
        (fun t inside => acyclic t (List.mem_cons_of_mem first inside)) restOrdered inTail
      refine ⟨extracted, List.mem_cons_of_mem first listed, ?_⟩
      have fresh : first.fullName ∉ (tableOf (mergeAll schema
          ((first.fullName, head.merged) :: done) rest).value).map Prod.fst := by
        rw [keys_tableOf, names_of_mergeAll]
        exact distinct.1
      rw [mergedAs, merge_congr fun ancestor _ =>
        lookup_append_cons fresh head.merged done ancestor, ← headName]
      rfl

-- ============================================================== entries

section Entries

variable (property : Property) (known : List String)

theorem name_keepKnown : (property.keepKnown known).name = property.name := rfl

theorem name_inherited : property.inherited.name = property.name := rfl

/-- What is inherited stays as it is. -/
theorem inherited_inherited : property.inherited.inherited = property.inherited := rfl

/-- An inherited entry notifies nothing along, so nothing is restricted. -/
theorem keepKnown_inherited : property.inherited.keepKnown known = property.inherited := rfl

end Entries

/-- Whether a hand-written property is offered where it is declared: its
getter can be called from outside, and its type, read in the namespace of
the declaration, is supported. -/
def isOffered (schema : Schema) (scope : Option String) (decl : PropertyDecl) : Bool :=
  decl.getter.any (·.isExternallyVisible)
    && (classify schema scope decl.type).category.isSupported

/-- When a hand-written property is offered, and what the offer carries. -/
theorem handWritten?_eq_some {owner : String} {scope : Option String}
    {isFromAncestor : Bool} {decl : PropertyDecl} {property : Property}
    (offer : handWritten? schema owner scope isFromAncestor decl = some property) :
    isOffered schema scope decl = true ∧ property.name = decl.name
      ∧ property.owner = owner ∧ property.fieldName? = none ∧ property.alsoNotify = [] := by
  unfold handWritten? at offer
  dsimp only at offer
  split at offer
  · next offered =>
    cases offer
    exact ⟨offered, rfl, rfl, rfl, rfl⟩
  · cases offer

theorem handWritten?_isSome (owner : String) (scope : Option String) (isFromAncestor : Bool)
    (decl : PropertyDecl) :
    (handWritten? schema owner scope isFromAncestor decl).isSome
      = isOffered schema scope decl := by
  unfold handWritten? isOffered
  dsimp only
  split
  · next offered => rw [offered]; rfl
  · next refused => rw [Bool.eq_false_iff.2 refused]; rfl

/-- Seen from a derived type, a hand-written offer is the inherited one. -/
theorem handWritten?_true (owner : String) (scope : Option String) (decl : PropertyDecl) :
    handWritten? schema owner scope true decl
      = (handWritten? schema owner scope false decl).map Property.inherited := by
  unfold handWritten?
  dsimp only
  split <;> rfl

theorem handWrittenOf_true (owner : String) :
    handWrittenOf schema true owner
      = (handWrittenOf schema false owner).map Property.inherited := by
  unfold handWrittenOf
  cases schema.typeDecl? owner with
  | none => rfl
  | some decl =>
    show decl.properties.filterMap (handWritten? schema owner decl.scope true) = _
    rw [List.map_filterMap]
    exact List.filterMap_congr fun property _ => handWritten?_true owner decl.scope property

/-- Where a hand-written offer comes from. -/
theorem mem_handWrittenOf {isFromAncestor : Bool} {owner : String} {property : Property}
    (offered : property ∈ handWrittenOf schema isFromAncestor owner) :
    ∃ decl written, schema.typeDecl? owner = some decl ∧ written ∈ decl.properties
      ∧ handWritten? schema owner decl.scope isFromAncestor written = some property := by
  unfold handWrittenOf at offered
  cases found : schema.typeDecl? owner with
  | none =>
    rw [found] at offered
    cases offered
  | some decl =>
    rw [found] at offered
    obtain ⟨written, inside, offer⟩ := List.mem_filterMap.1 offered
    exact ⟨decl, written, rfl, inside, offer⟩

/-- Hand-written offers notify nothing along, so there is nothing to
restrict. -/
theorem keepKnown_handWrittenOf (known : List String) (isFromAncestor : Bool)
    (owner : String) :
    (handWrittenOf schema isFromAncestor owner).map (·.keepKnown known)
      = handWrittenOf schema isFromAncestor owner := by
  have untouched : ∀ property ∈ handWrittenOf schema isFromAncestor owner,
      property.keepKnown known = id property := by
    intro property inside
    obtain ⟨decl, written, -, -, offer⟩ := mem_handWrittenOf inside
    obtain ⟨-, -, -, -, silent⟩ := handWritten?_eq_some offer
    unfold Property.keepKnown
    rw [silent]
    show { property with alsoNotify := [] } = property
    rw [← silent]
  rw [List.map_congr_left untouched, List.map_id]

-- =============================================================== direct

/-- What an ancestor hands down of its finished list. -/
def handedDown (types : List TypeDescriptor) (ancestor : String) : List Property :=
  match types.find? (·.fullName == ancestor) with
  | some type => type.merged.map Property.inherited
  | none => []

/-- What an ancestor hands down of its own accessors. -/
def ownHandedDown (types : List TypeDescriptor) (ancestor : String) : List Property :=
  match types.find? (·.fullName == ancestor) with
  | some type => type.accessors.map Property.inherited
  | none => []

/-- What a type has from itself and from hand-written code. -/
def nearOffers (schema : Schema) (type : TypeDescriptor) : List Property :=
  type.accessors ++ handWrittenOf schema false type.fullName
    ++ type.chain.flatMap (handWrittenOf schema true)

/-- Everything that a type might list, asked of each type of its chain
directly: the type's own accessors, then what is written by hand on it and
along its chain, then the accessors of the bound types of its chain. -/
def directOffers (schema : Schema) (types : List TypeDescriptor) (type : TypeDescriptor) :
    List Property :=
  nearOffers schema type ++ type.chain.flatMap (ownHandedDown types)

/-- Looking an ancestor up in the table of finished types yields what it
hands down. -/
theorem handedDown_eq (types : List TypeDescriptor) (ancestor : String) :
    (((tableOf types).lookup ancestor).getD []).map Property.inherited
      = handedDown types ancestor := by
  rw [lookup_tableOf]
  unfold handedDown
  cases types.find? (·.fullName == ancestor) <;> rfl

/-- What leaves inherited entries alone leaves alone what is handed down. -/
theorem handedDown_map {f : Property → Property}
    (untouched : ∀ property : Property, f property.inherited = property.inherited)
    (types : List TypeDescriptor) (chain : List String) :
    (chain.flatMap (handedDown types)).map f = chain.flatMap (handedDown types) := by
  rw [List.map_flatMap]
  refine List.flatMap_congr fun ancestor _ => ?_
  unfold handedDown
  cases types.find? (·.fullName == ancestor) with
  | none => rfl
  | some type =>
    dsimp only
    rw [List.map_map]
    exact List.map_congr_left fun property _ => untouched property

/-- Restricting follow-ups touches nothing but the own accessors. -/
theorem candidates_keepKnown (known : List String) (types : List TypeDescriptor)
    (extracted : ExtractedType) :
    (extracted.candidates schema (tableOf types)).map (·.keepKnown known)
      = extracted.accessors.map (·.keepKnown known)
        ++ handWrittenOf schema false extracted.fullName
        ++ extracted.chain.flatMap (handWrittenOf schema true)
        ++ extracted.chain.flatMap (handedDown types) := by
  have fromTable : (extracted.chain.flatMap fun ancestor =>
        (((tableOf types).lookup ancestor).getD []).map Property.inherited)
      = extracted.chain.flatMap (handedDown types) :=
    List.flatMap_congr fun ancestor _ => handedDown_eq types ancestor
  unfold ExtractedType.candidates
  rw [List.map_append, List.map_append, List.map_append, keepKnown_handWrittenOf, fromTable,
    handedDown_map fun property => keepKnown_inherited property known, List.map_flatMap]
  simp only [keepKnown_handWrittenOf]

/-- The list of a type that was finished against the table of some types,
in terms of what it became. -/
theorem merged_finish (types : List TypeDescriptor) (extracted : ExtractedType)
    {type : TypeDescriptor}
    (finished : type = (extracted.finish (extracted.merge schema (tableOf types))).value) :
    type.merged =
      if type.mode.isBindable then
        firstOffers Property.name []
          (nearOffers schema type ++ type.chain.flatMap (handedDown types))
      else type.accessors := by
  generalize knownIs : (extracted.merge schema (tableOf types)).map (·.name) = known
  have merged : type.merged
      = (extracted.merge schema (tableOf types)).map (·.keepKnown known) := by
    rw [finished, ← knownIs]
    rfl
  have accessors : type.accessors = extracted.accessors.map (·.keepKnown known) := by
    rw [finished, ← knownIs]
    show List.filter _ (List.map _ extracted.own) = _
    rw [List.filter_map]
    rfl
  have outline : type.toTypeOutline = extracted.toTypeOutline := by rw [finished]; rfl
  rw [merged, accessors]
  unfold ExtractedType.merge nearOffers
  rw [outline, accessors]
  split
  · rw [← firstOffers_map (fun property => name_keepKnown property known),
      candidates_keepKnown]
  · rfl

-- ========================================================== the analysis

section Analysis

variable {options : Options} {analysis : Analysis}

/-- Where a type of an analysis comes from: an extracted type that was
finished against the table of all of them. -/
theorem finished_of_analyze (run : analyze schema options = .ok analysis)
    {type : TypeDescriptor} (listed : type ∈ analysis.types) :
    ∃ outlined, (outlines schema).value = .ok outlined
      ∧ ∃ extracted ∈ (extractAll schema outlined).value,
        type = (extracted.finish
          (extracted.merge schema (tableOf analysis.types))).value := by
  obtain ⟨outlined, _, found, -, rfl⟩ := analyze_ok run
  have linked := linked_of_outlines found
  refine ⟨outlined, found, ?_⟩
  generalize extractedIs : (extractAll schema outlined).value = extracted at listed ⊢
  have outlines : extracted.map (·.toTypeOutline) = outlined := by
    rw [← extractedIs]
    exact outlines_of_extractAll outlined
  have distinct : (extracted.map (·.fullName)).Nodup := by
    have names := linked.distinct
    rw [← outlines, List.map_map] at names
    exact names
  have acyclic : ∀ t ∈ extracted, t.fullName ∉ t.chain := by
    intro t inside
    have outlinedToo : t.toTypeOutline ∈ outlined := by
      rw [← outlines]
      exact List.mem_map_of_mem inside
    exact (List.nodup_cons.1 (linked.acyclic _ outlinedToo)).1
  have ordered : extracted.Pairwise fun a b => b.fullName ∉ a.chain := by
    have inOrder := linked.ordered
    rw [← outlines, List.pairwise_map] at inOrder
    exact inOrder
  obtain ⟨t, inside, finished⟩ := mem_mergeAll distinct acyclic ordered listed
  rw [List.append_nil] at finished
  exact ⟨t, inside, finished⟩

/-- The merged list of a type, read off the lists of the others. -/
theorem merged_of_table (run : analyze schema options = .ok analysis)
    {type : TypeDescriptor} (listed : type ∈ analysis.types) :
    type.merged =
      if type.mode.isBindable then
        firstOffers Property.name []
          (nearOffers schema type ++ type.chain.flatMap (handedDown analysis.types))
      else type.accessors := by
  obtain ⟨_, -, extracted, -, finished⟩ := finished_of_analyze run listed
  exact merged_finish analysis.types extracted finished

theorem merged_of_bindable (run : analyze schema options = .ok analysis)
    {type : TypeDescriptor} (listed : type ∈ analysis.types)
    (bindable : type.mode.isBindable = true) :
    type.merged = firstOffers Property.name []
      (nearOffers schema type ++ type.chain.flatMap (handedDown analysis.types)) := by
  rw [merged_of_table run listed, if_pos bindable]

/-- In auto-notify mode a type lists its own accessors and nothing else. -/
theorem merged_of_autoNotify (run : analyze schema options = .ok analysis)
    {type : TypeDescriptor} (listed : type ∈ analysis.types)
    (flat : type.mode.isBindable = false) : type.merged = type.accessors := by
  rw [merged_of_table run listed, flat]
  rfl

-- ============================================================ the chain

/-- A listed ancestor hands down its finished list and its accessors. -/
theorem handedDown_of_listed (run : analyze schema options = .ok analysis)
    {ancestor : TypeDescriptor} (listed : ancestor ∈ analysis.types) :
    handedDown analysis.types ancestor.fullName = ancestor.merged.map Property.inherited
      ∧ ownHandedDown analysis.types ancestor.fullName
        = ancestor.accessors.map Property.inherited := by
  unfold handedDown ownHandedDown
  rw [(find?_fullName (distinct_of_analyze run)).2 ⟨listed, rfl⟩]
  exact ⟨rfl, rfl⟩

/-- Other ancestors hand down nothing. -/
theorem handedDown_of_not_listed {types : List TypeDescriptor} {name : String}
    (unlisted : types.find? (·.fullName == name) = none) :
    handedDown types name = [] ∧ ownHandedDown types name = [] := by
  unfold handedDown ownHandedDown
  rw [unlisted]
  exact ⟨rfl, rfl⟩

/-- Of what a type has near by, a derived type sees the accessors, as
inherited, and what is written by hand on the type and along its chain. -/
theorem nearOffers_inherited (type : TypeDescriptor) :
    (nearOffers schema type).map Property.inherited
      = type.accessors.map Property.inherited
        ++ (type.fullName :: type.chain).flatMap (handWrittenOf schema true) := by
  have again : ∀ owner, (handWrittenOf schema true owner).map Property.inherited
      = handWrittenOf schema true owner := by
    intro owner
    rw [handWrittenOf_true, List.map_map]
    exact List.map_congr_left fun property _ => inherited_inherited property
  unfold nearOffers
  rw [List.map_append, List.map_append, ← handWrittenOf_true, List.map_flatMap,
    List.flatMap_cons, List.append_assoc]
  simp only [again]

/-- The step along the chain. To a descendant that has the hand-written
properties already and will ask the rest of the chain as well, the finished
list of an ancestor offers no more than the ancestor's accessors. -/
theorem firstOffers_ancestor (run : analyze schema options = .ok analysis)
    {name : String} {rest taken : List String}
    (behind : ∀ ancestor ∈ analysis.types, ancestor.fullName = name → ancestor.chain = rest)
    (written : ∀ n ∈ ((name :: rest).flatMap (handWrittenOf schema true)).map Property.name,
      n ∈ taken) :
    firstOffers Property.name taken
        (handedDown analysis.types name ++ rest.flatMap (handedDown analysis.types))
      = firstOffers Property.name taken
        (ownHandedDown analysis.types name ++ rest.flatMap (handedDown analysis.types)) := by
  cases found : analysis.types.find? (·.fullName == name) with
  | none =>
    obtain ⟨nothing, nothing'⟩ := handedDown_of_not_listed found
    rw [nothing, nothing']
  | some ancestor =>
    obtain ⟨listed, rfl⟩ := (find?_fullName (distinct_of_analyze run)).1 found
    obtain ⟨whole, own⟩ := handedDown_of_listed run listed
    rw [whole, own]
    cases bindable : ancestor.mode.isBindable with
    | false =>
      rw [merged_of_autoNotify run listed bindable]
    | true =>
      have mergedIs := merged_of_bindable run listed bindable
      have chainIs : ancestor.chain = rest := behind ancestor listed rfl
      rw [chainIs] at mergedIs
      generalize farther : rest.flatMap (handedDown analysis.types) = R at mergedIs ⊢
      have again : R.map Property.inherited = R := by
        rw [← farther]
        exact handedDown_map inherited_inherited analysis.types rest
      rw [mergedIs, ← firstOffers_map name_inherited, firstOffers_absorb, List.map_append,
        again, nearOffers_inherited, chainIs, List.append_assoc, List.append_assoc,
        firstOffers_drop fun n inside => Or.inr (written n inside), firstOffers_again]

/-- To a descendant that has the hand-written properties of a chain
already, the finished lists along the chain offer what the accessors along
it offer. -/
theorem firstOffers_handedDown (run : analyze schema options = .ok analysis)
    {chain : List String} {taken : List String}
    (behind : ∀ ancestor ∈ analysis.types, ∀ before after,
      chain = before ++ ancestor.fullName :: after → ancestor.chain = after)
    (written : ∀ n ∈ (chain.flatMap (handWrittenOf schema true)).map Property.name,
      n ∈ taken) :
    firstOffers Property.name taken (chain.flatMap (handedDown analysis.types))
      = firstOffers Property.name taken (chain.flatMap (ownHandedDown analysis.types)) := by
  induction chain generalizing taken with
  | nil => rfl
  | cons name rest ih =>
    have first := firstOffers_ancestor run
      (fun ancestor listed named => behind ancestor listed [] rest (by rw [named]; rfl)) written
    rw [List.flatMap_cons, List.map_append] at written
    rw [List.flatMap_cons, List.flatMap_cons, first, firstOffers_append, firstOffers_append]
    congr 1
    apply ih
    · intro ancestor listed before after split
      exact behind ancestor listed (name :: before) after (by rw [split]; rfl)
    · intro n inside
      exact List.mem_append_right _ (written n (List.mem_append_right _ inside))

/-- The merged list of a bindable type, asked of its chain directly. -/
theorem merged_of_direct (run : analyze schema options = .ok analysis)
    {type : TypeDescriptor} (listed : type ∈ analysis.types)
    (bindable : type.mode.isBindable = true) :
    type.merged
      = firstOffers Property.name [] (directOffers schema analysis.types type) := by
  unfold directOffers
  rw [merged_of_bindable run listed bindable, firstOffers_append, firstOffers_append]
  congr 1
  apply firstOffers_handedDown run
  · intro ancestor listedAncestor before after split
    exact chain_of_ancestor run listed listedAncestor split
  · intro n inside
    unfold nearOffers
    rw [List.append_nil, List.map_append]
    exact List.mem_append_right _ inside

/-- No name that an ancestor lists is lost. -/
theorem names_of_ancestor (run : analyze schema options = .ok analysis)
    {type ancestor : TypeDescriptor} (listed : type ∈ analysis.types)
    (bindable : type.mode.isBindable = true) (listedAncestor : ancestor ∈ analysis.types)
    (inChain : ancestor.fullName ∈ type.chain) {entry : Property}
    (inside : entry ∈ ancestor.merged) : entry.name ∈ type.merged.map Property.name := by
  rw [merged_of_bindable run listed bindable, mem_keys_firstOffers]
  refine ⟨List.mem_map.2 ⟨entry.inherited, ?_, name_inherited entry⟩, List.not_mem_nil⟩
  refine List.mem_append_right _ (List.mem_flatMap.2 ⟨ancestor.fullName, inChain, ?_⟩)
  rw [(handedDown_of_listed run listedAncestor).1]
  exact List.mem_map_of_mem inside

/-- Merging one type after the other, each from the finished lists of its
ancestors, is asking every type of the chain directly and keeping the first
offer of each name. Each name stands in the list once, and none that an
ancestor lists is lost. -/
theorem merged_eq_direct (run : analyze schema options = .ok analysis)
    {type : TypeDescriptor} (listed : type ∈ analysis.types)
    (bindable : type.mode.isBindable = true) :
    type.merged
        = (directOffers schema analysis.types type).eraseDupsBy (fun a b => a.name == b.name)
      ∧ (type.merged.map Property.name).Nodup
      ∧ ∀ ancestor ∈ analysis.types, ancestor.fullName ∈ type.chain →
          ∀ entry ∈ ancestor.merged, entry.name ∈ type.merged.map Property.name := by
  have direct := merged_of_direct run listed bindable
  refine ⟨?_, ?_, ?_⟩
  · rw [direct]
    exact (eraseDupsBy_eq _).symm
  · rw [direct]
    exact nodup_keys_firstOffers [] _
  · intro ancestor listedAncestor inChain entry inside
    exact names_of_ancestor run listed bindable listedAncestor inChain inside

end Analysis

-- ============================================================= a family

/-- What the analysis makes of the family, ancestors first: actor, counter,
dial, orc, shaman. -/
def familyTypes : List TypeDescriptor :=
  (mergeAll family [] (extractAll family familyOutlines).value).value

theorem analyze_family :
    ∃ analysis, analyze family {} = .ok analysis ∧ analysis.types = familyTypes := by
  have registers : family.types.filter (·.isEventRegister) = [] := by decide +kernel
  have events : (eventTypes family).value = .ok [] := by
    unfold eventTypes
    rw [registers]
    show Except.ok (ancestorsFirst _ _ []) = _
    unfold ancestorsFirst
    rw [List.map_nil, List.mergeSort_nil]
  unfold analyze
  simp only [outlines_family, events]
  exact ⟨_, rfl, rfl⟩

/-- The shaman has its mana from its own field, its rage from the mob's
hand-written property and its name from the actor's field. -/
theorem family_merged_eq_direct :
    ∃ analysis, analyze family {} = .ok analysis
      ∧ ∃ shaman ∈ analysis.types, shaman.fullName = "game::Shaman"
        ∧ shaman.mode.isBindable = true
        ∧ shaman.merged.map (fun entry => (entry.name, entry.owner))
          = [("Mana", "game::Shaman"), ("Rage", "game::Mob"), ("Name", "game::Actor")]
        ∧ shaman.merged = (directOffers family analysis.types shaman).eraseDupsBy
            (fun a b => a.name == b.name) := by
  obtain ⟨analysis, run, types⟩ := analyze_family
  have found : ∃ shaman ∈ familyTypes, shaman.fullName = "game::Shaman"
      ∧ shaman.mode.isBindable = true
      ∧ shaman.merged.map (fun entry => (entry.name, entry.owner))
        = [("Mana", "game::Shaman"), ("Rage", "game::Mob"), ("Name", "game::Actor")] := by
    decide +kernel
  rw [← types] at found
  obtain ⟨shaman, listed, named, bindable, entries⟩ := found
  obtain ⟨direct, -, -⟩ := merged_eq_direct run listed bindable
  exact ⟨analysis, run, shaman, listed, named, bindable, entries, direct⟩

end DataBinding
