import InputMap.Profile.Document
import InputMap.Proofs.Expr.Equality
import InputMap.Proofs.Number.Conversion
import InputMap.Proofs.Toml.Reordering

/-!
# Profiles in documents

A profile becomes a document and is taken from it again.  The nodes of an expression are written in
different shapes: a bare name, a table with one key, and below the key another table, an array, or
an array that mixes tables with something else.  No two nodes are taken for each other, since each
is written under its own name; and a number comes back since it is written with more digits than it
has.

How a document is written as a text is not looked at here.  The text layer is a parameter, and all
that is asked of it is that it keeps the document in question, up to the order of the fields of
tables.  The format of the library is `TextFormat.toml`; it does not keep documents that are nested
to the depth of `nestingLimit`.

## Key results

- `decodeExpr_of_reorders`, `Profile.ofTree_of_reorders`: what is written into a document is taken
  from it again
- `Profile.roundTrip_of_keeps`: the same for texts
-/

namespace InputMap

open Toml

/-! ## Choices -/

/-- The names by which a value is chosen stand for one value each. -/
theorem decodeOneOf_key {α : Type} (all : List α) (key : α → String) {a : α}
    (hinj : ∀ b ∈ all, ∀ c ∈ all, key b = key c → b = c) (ha : a ∈ all) :
    (Tree.string (key a)).decodeOneOf all key = .ok a := by
  have hmem : key a ∈ all.map key := List.mem_map_of_mem ha
  simp only [Tree.decodeOneOf, Tree.decodeChoice, if_pos hmem, Except.bind_eq_ok]
  refine ⟨⟨key a, none⟩, rfl, (), rfl, ?_⟩
  rw [List.find?_key hinj ha]
  rfl

/-- A table with one field has no other order, so only what is below the field can be reordered. -/
theorem exists_single_of_reorders {key : String} {t u : Tree}
    (h : t.reorders (single key u) = true) : ∃ v, t = single key v ∧ v.reorders u = true := by
  obtain ⟨fields, found, rfl, hperm, hfound⟩ := Tree.exists_perm_of_reorders h (by simp)
  obtain ⟨field, rest, ⟨rfl, hv⟩, hrest, rfl⟩ := List.forall₂_cons_right_iff.1 hfound
  rw [List.forall₂_nil_right_iff.1 hrest, List.perm_singleton] at hperm
  subst hperm
  exact ⟨field.2, rfl, hv⟩

/-- A number in a document is read back as it was. -/
theorem decodeSingle_floatTree (x : Float32) : (floatTree x).decodeSingle = .ok x :=
  congrArg Except.ok (Number.narrow_widen x)

theorem decodeSignal_of_reorders {s : Signal} {t : Tree} (h : t.reorders s.tree = true) :
    decodeSignal t = .ok s := by
  -- each group is one field with a name below it, and the names of a group are distinct
  cases s with
  | button b =>
    obtain ⟨v, rfl, hv⟩ := exists_single_of_reorders h
    obtain rfl := Tree.reorders_string.1 hv
    have hb := decodeOneOf_key Button.all Button.key (by decide) (Button.mem_all b)
    show Signal.button <$> (Tree.string b.key).decodeOneOf Button.all Button.key = _
    rw [hb]
    rfl
  | trigger t =>
    obtain ⟨v, rfl, hv⟩ := exists_single_of_reorders h
    obtain rfl := Tree.reorders_string.1 hv
    have ht := decodeOneOf_key Trigger.all Trigger.key (by decide) (Trigger.mem_all t)
    show Signal.trigger <$> (Tree.string t.key).decodeOneOf Trigger.all Trigger.key = _
    rw [ht]
    rfl
  | stick s =>
    obtain ⟨v, rfl, hv⟩ := exists_single_of_reorders h
    obtain rfl := Tree.reorders_string.1 hv
    have hs := decodeOneOf_key Stick.all Stick.key (by decide) (Stick.mem_all s)
    show Signal.stick <$> (Tree.string s.key).decodeOneOf Stick.all Stick.key = _
    rw [hs]
    rfl

theorem decodeValue_of_reorders {v : Value} {t : Tree} (h : t.reorders v.tree = true) :
    decodeValue t = .ok v := by
  -- each shape is one field; below it only the two axes form a tree of their own
  cases v with
  | bool b =>
    obtain ⟨u, rfl, hu⟩ := exists_single_of_reorders h
    obtain rfl := Tree.reorders_boolean.1 hu
    rfl
  | scalar x =>
    obtain ⟨u, rfl, hu⟩ := exists_single_of_reorders h
    obtain rfl := Tree.reorders_float.1 hu
    show Value.scalar <$> (floatTree x).decodeSingle = _
    rw [decodeSingle_floatTree]
    rfl
  | vec2 x y =>
    obtain ⟨u, rfl, hu⟩ := exists_single_of_reorders h
    obtain ⟨first, second, rfl, hx, hy⟩ := Tree.reorders_pair.1 hu
    obtain rfl := Tree.reorders_float.1 hx
    obtain rfl := Tree.reorders_float.1 hy
    show (do return Value.vec2 (← (floatTree x).decodeSingle) (← (floatTree y).decodeSingle)) = _
    rw [decodeSingle_floatTree, decodeSingle_floatTree]
    rfl

/-! ## Expressions -/

/-- Two operands are read from an array in their order. -/
theorem decodePair_of_reorders {a b : Expr} {t : Tree}
    (ha : ∀ u : Tree, u.reorders a.tree = true → decodeExpr u = .ok a)
    (hb : ∀ u : Tree, u.reorders b.tree = true → decodeExpr u = .ok b)
    (h : t.reorders (.array [a.tree, b.tree]) = true) : decodePair t = .ok (a, b) := by
  obtain ⟨u, v, rfl, hu, hv⟩ := Tree.reorders_pair.1 h
  rw [decodePair, ha u hu, hb v hv]
  rfl

/-- An operand is read from an array with a second item, which is left as it is. -/
theorem decodeOperand_of_reorders {e : Expr} {t other : Tree}
    (he : ∀ u : Tree, u.reorders e.tree = true → decodeExpr u = .ok e)
    (h : t.reorders (.array [e.tree, other]) = true) :
    ∃ v, decodeOperand t = .ok (e, v) ∧ v.reorders other = true := by
  obtain ⟨u, v, rfl, hu, hv⟩ := Tree.reorders_pair.1 h
  refine ⟨v, ?_, hv⟩
  rw [decodeOperand, he u hu]
  rfl

/-- The fields of a node are read one after the other. -/
theorem decodeNamed_eq_ok {fields : List (String × Tree)} {parts : List (String × Expr)}
    (h : List.Forall₂ (fun field part => field.1 = part.1 ∧ decodeExpr field.2 = .ok part.2)
      fields parts) : decodeNamed fields = .ok parts := by
  induction h with
  | nil => rfl
  | @cons field part _ _ hfield _ ih =>
    obtain ⟨key, t⟩ := field
    obtain ⟨rfl, hdecode⟩ := hfield
    rw [decodeNamed, hdecode, ih]
    rfl

/-- A part is found by its name. -/
theorem partOf_eq_ok {parts : List (String × Expr)} {part : String × Expr}
    (hkeys : (parts.map (·.1)).Nodup) (hmem : part ∈ parts) (missing : DecodeError) :
    partOf parts missing part.1 = .ok part.2 := by
  have hfind : parts.find? (fun other => other.1 == part.1) = some part :=
    List.find?_key (fun _ hb _ hc => List.inj_on_of_nodup_map hkeys hb hc) hmem
  rw [partOf, hfind]

/-- The fields of a node are read in any order, and each is found by its name afterwards. -/
theorem decodeParts_of_reorders (title : String) (parts : List (String × Expr)) {t : Tree}
    (hkeys : (parts.map (·.1)).Nodup)
    (hparts : ∀ part ∈ parts, ∀ u : Tree, u.reorders part.2.tree = true →
      decodeExpr u = .ok part.2)
    (h : t.reorders (.table (parts.map fun part => (part.1, part.2.tree))) = true) :
    refuseKeys (parts.map (·.1)) t = .ok () ∧
      ∃ read, decodeParts title (parts.map (·.1)) t = .ok read ∧
        ∀ part ∈ parts, ∀ missing, partOf read missing part.1 = .ok part.2 := by
  have hmap : (parts.map fun part => (part.1, part.2.tree)).map (·.1) = parts.map (·.1) := by
    rw [List.map_map]
    rfl
  -- the fields come in any order, each with the part of its own name
  obtain ⟨fields, found, rfl, hperm, hfound⟩ := Tree.exists_perm_of_reorders h (by rwa [hmap])
  have hdecoded : List.Forall₂
      (fun field part => field.1 = part.1 ∧ decodeExpr field.2 = .ok part.2)
      found parts := by
    rw [List.forall₂_map_right_iff] at hfound
    exact hfound.imp_of_mem fun field part hpart hfield =>
      ⟨hfield.1, hparts part hpart field.2 hfield.2⟩
  obtain ⟨read, hread, hreordered⟩ := List.perm_comp_forall₂ hperm hdecoded
  -- no name is strange and none comes twice, so nothing is refused and every part is found
  have hnames : ∀ field ∈ fields, field.1 ∈ parts.map (·.1) := by
    intro field hfield
    obtain ⟨part, hpart, heq, -⟩ := hread.exists_right hfield
    rw [heq]
    exact List.mem_map_of_mem (hreordered.mem_iff.1 hpart)
  have hnodup : (read.map (·.1)).Nodup := (hreordered.map (·.1)).nodup_iff.2 hkeys
  refine ⟨?_, read, decodeNamed_eq_ok hread, fun part hpart missing => ?_⟩
  · have hnone : fields.find? (fun field => field.1 ∉ parts.map (·.1)) = none := by
      rw [List.find?_eq_none]
      intro field hfield
      simpa using hnames field hfield
    rw [refuseKeys, hnone]
  · exact partOf_eq_ok hnodup (hreordered.mem_iff.2 hpart) missing

/-- What is written of an expression is read as that expression. -/
theorem decodeExpr_of_reorders {e : Expr} {t : Tree} (h : t.reorders e.tree = true) :
    decodeExpr t = .ok e := by
  -- on the expression; the name of a node says how its content is to be read
  induction e generalizing t with
  | input s =>
    obtain ⟨v, rfl, hv⟩ := exists_single_of_reorders h
    show Expr.input <$> decodeSignal v = _
    rw [decodeSignal_of_reorders hv]
    rfl
  | constant w =>
    obtain ⟨v, rfl, hv⟩ := exists_single_of_reorders h
    show Expr.constant <$> decodeValue v = _
    rw [decodeValue_of_reorders hv]
    rfl
  | add a b iha ihb =>
    obtain ⟨v, rfl, hv⟩ := exists_single_of_reorders h
    show (fun pair => Expr.add pair.1 pair.2) <$> decodePair v = _
    rw [decodePair_of_reorders (fun _ => iha) (fun _ => ihb) hv]
    rfl
  | multiply a b iha ihb =>
    obtain ⟨v, rfl, hv⟩ := exists_single_of_reorders h
    show (fun pair => Expr.multiply pair.1 pair.2) <$> decodePair v = _
    rw [decodePair_of_reorders (fun _ => iha) (fun _ => ihb) hv]
    rfl
  | branch c a b ihc iha ihb =>
    obtain ⟨v, rfl, hv⟩ := exists_single_of_reorders h
    -- the parts may come in any order, and each is read by its own hypothesis
    have hparts : ∀ part ∈ [("cond", c), ("then", a), ("otherwise", b)], ∀ u : Tree,
        u.reorders part.2.tree = true → decodeExpr u = .ok part.2 := by
      simp only [List.forall_mem_cons]
      exact ⟨fun _ => ihc, fun _ => iha, fun _ => ihb, by simp⟩
    obtain ⟨hkeys, read, hread, hfound⟩ :=
      decodeParts_of_reorders branchTitle [("cond", c), ("then", a), ("otherwise", b)]
        (show branchFields.Nodup by decide) hparts hv
    simp only [List.forall_mem_cons] at hfound
    obtain ⟨hcond, hthen, hotherwise, -⟩ := hfound
    show (refuseKeys branchFields v >>= _) = _
    simp only [Except.bind_eq_ok]
    exact ⟨(), hkeys, read, hread, c, hcond _, a, hthen _, b, hotherwise _, rfl⟩
  | xor a b iha ihb =>
    obtain ⟨v, rfl, hv⟩ := exists_single_of_reorders h
    show (fun pair => Expr.xor pair.1 pair.2) <$> decodePair v = _
    rw [decodePair_of_reorders (fun _ => iha) (fun _ => ihb) hv]
    rfl
  | join x y ihx ihy =>
    obtain ⟨v, rfl, hv⟩ := exists_single_of_reorders h
    have hparts : ∀ part ∈ [("x", x), ("y", y)], ∀ u : Tree,
        u.reorders part.2.tree = true → decodeExpr u = .ok part.2 := by
      simp only [List.forall_mem_cons]
      exact ⟨fun _ => ihx, fun _ => ihy, by simp⟩
    obtain ⟨hkeys, read, hread, hfound⟩ :=
      decodeParts_of_reorders joinTitle [("x", x), ("y", y)]
        (show joinFields.Nodup by decide) hparts hv
    simp only [List.forall_mem_cons] at hfound
    obtain ⟨hx, hy, -⟩ := hfound
    show (refuseKeys joinFields v >>= _) = _
    simp only [Except.bind_eq_ok]
    exact ⟨(), hkeys, read, hread, x, hx _, y, hy _, rfl⟩
  | split e axis ih =>
    obtain ⟨v, rfl, hv⟩ := exists_single_of_reorders h
    -- the operand stands first, and what the node keeps beside it second
    obtain ⟨other, hoperand, hother⟩ := decodeOperand_of_reorders (fun _ => ih) hv
    obtain rfl := Tree.reorders_string.1 hother
    have haxis : (Tree.string axis.key).decodeOneOf Axis.all Axis.key = .ok axis :=
      decodeOneOf_key Axis.all Axis.key (by decide) (by cases axis <;> decide)
    show (decodeOperand v >>= fun operand =>
      Expr.split operand.1 <$> operand.2.decodeOneOf Axis.all Axis.key) = _
    rw [hoperand]
    show Expr.split e <$> (Tree.string axis.key).decodeOneOf Axis.all Axis.key = _
    rw [haxis]
    rfl
  | threshold e limit ih =>
    obtain ⟨v, rfl, hv⟩ := exists_single_of_reorders h
    obtain ⟨other, hoperand, hother⟩ := decodeOperand_of_reorders (fun _ => ih) hv
    obtain rfl := Tree.reorders_float.1 hother
    show (decodeOperand v >>= fun operand =>
      Expr.threshold operand.1 <$> operand.2.decodeSingle) = _
    rw [hoperand]
    show Expr.threshold e <$> (floatTree limit).decodeSingle = _
    rw [decodeSingle_floatTree]
    rfl
  | previous =>
    obtain rfl := Tree.reorders_string.1 h
    rfl

/-! ## Profiles -/

/-- A record that is written as a table with all its fields is read with all of them. -/
theorem decodeRecord_of_reorders (title : String) {t : Tree} {others : List (String × Tree)}
    (h : t.reorders (.table others) = true) (hkeys : (others.map (·.1)).Nodup) :
    ∃ fields found, t.decodeRecord title (others.map (·.1)) = .ok ⟨fields, false⟩ ∧
      fields.Perm found ∧
        List.Forall₂ (fun field other => field.1 = other.1 ∧ field.2.reorders other.2 = true)
          found others := by
  obtain ⟨fields, found, rfl, hperm, hfound⟩ := Tree.exists_perm_of_reorders h hkeys
  have hnames : ∀ field ∈ fields, field.1 ∈ others.map (·.1) := by
    intro field hfield
    obtain ⟨other, hother, hkey, -⟩ := hfound.exists_right (hperm.mem_iff.1 hfield)
    rw [hkey]
    exact List.mem_map_of_mem hother
  -- no field is strange, so none is left out
  have hall : fields.filter (fun field => field.1 ∈ others.map (·.1)) = fields := by
    simpa using hnames
  refine ⟨fields, found, ?_, hperm, hfound⟩
  rw [Tree.decodeRecord, hall]

/-- The fields of an entry, in any order. -/
theorem foldlM_entryDraft_of_perm {entry : ProfileEntry} {t : Tree} {fields : List (String × Tree)}
    (ht : decodeExpr t = .ok entry.expr)
    (hperm : fields.Perm [("action", .string entry.action),
      ("category", .string entry.category.key), ("expr", t)]) :
    fields.foldlM EntryDraft.add ⟨none, none, none⟩ =
      .ok ⟨some entry.action, some entry.category, some entry.expr⟩ := by
  have hcategory := decodeOneOf_key Category.all Category.key (by decide)
    (Category.mem_all entry.category)
  have horders := List.mem_permutations'.2 hperm
  simp only [List.permutations', List.flatMap_cons, List.flatMap_nil, List.permutations'Aux,
    List.map_cons, List.map_nil, List.append_nil, List.cons_append, List.nil_append,
    List.mem_cons, List.not_mem_nil, or_false] at horders
  rcases horders with rfl | rfl | rfl | rfl | rfl | rfl <;>
    simp only [List.foldlM_cons, List.foldlM_nil, EntryDraft.add, hcategory, ht] <;> rfl

/-- An entry is read back from its tree, in whatever order its fields come. -/
theorem decodeEntry_of_reorders {entry : ProfileEntry} {t : Tree}
    (h : t.reorders entry.tree = true) : decodeEntry t = .ok entry := by
  obtain ⟨fields, found, hrecord, hperm, hfound⟩ := decodeRecord_of_reorders ProfileEntry.title h
    (show ProfileEntry.fieldNames.Nodup by decide)
  -- what was found has the values that were written, up to the order inside the expression
  obtain ⟨⟨_, action⟩, _, ⟨rfl, haction⟩, hafter, rfl⟩ := List.forall₂_cons_right_iff.1 hfound
  obtain ⟨⟨_, category⟩, _, ⟨rfl, hcategory⟩, hlast, rfl⟩ := List.forall₂_cons_right_iff.1 hafter
  obtain ⟨⟨_, t⟩, _, ⟨rfl, ht⟩, hnil, rfl⟩ := List.forall₂_cons_right_iff.1 hlast
  obtain rfl := List.forall₂_nil_right_iff.1 hnil
  obtain rfl := Tree.reorders_string.1 haction
  obtain rfl := Tree.reorders_string.1 hcategory
  have hdraft := foldlM_entryDraft_of_perm (decodeExpr_of_reorders ht) hperm
  simp only [decodeEntry, Except.bind_eq_ok]
  exact ⟨_, hrecord, _, hdraft, _, rfl, _, rfl, _, rfl, rfl⟩

/-- A list of entries is read back from their trees. -/
theorem mapM_decodeEntry_of_reorders {entries : List ProfileEntry} {items : List Tree}
    (h : List.Forall₂ (fun t u => t.reorders u = true) items (entries.map (·.tree))) :
    items.mapM decodeEntry = .ok entries := by
  rw [List.forall₂_map_right_iff] at h
  exact Except.mapM_eq_ok.2 (h.imp fun _ _ => decodeEntry_of_reorders)

/-- The fields of a profile, in any order. -/
theorem foldlM_profileDraft_of_perm {name : String} {entries : List ProfileEntry}
    {items : List Tree} {fields : List (String × Tree)}
    (hitems : items.mapM decodeEntry = .ok entries)
    (hperm : fields.Perm [("name", .string name), ("bindings", .array items)]) :
    fields.foldlM ProfileDraft.add ⟨none, []⟩ = .ok ⟨some name, entries⟩ := by
  have hname : ∀ draft : ProfileDraft, draft.add ("name", .string name) =
      .ok ⟨some name, draft.bindings⟩ := fun _ => rfl
  have hbindings : ∀ draft : ProfileDraft, draft.add ("bindings", .array items) =
      .ok ⟨draft.name?, entries⟩ := by
    intro draft
    show (items.mapM decodeEntry >>= _) = _
    rw [hitems]
    rfl
  -- two fields have two orders, and neither field reads what the other one set
  rcases List.perm_pair.1 hperm with rfl | rfl
  · simp only [List.foldlM_cons, List.foldlM_nil, Except.bind_eq_ok]
    exact ⟨_, hname _, _, hbindings _, rfl⟩
  · simp only [List.foldlM_cons, List.foldlM_nil, Except.bind_eq_ok]
    exact ⟨_, hbindings _, _, hname _, rfl⟩

/-- What is written of a profile is read as that profile. -/
theorem Profile.ofTree_of_reorders {p : Profile} {t : Tree} (h : t.reorders p.tree = true) :
    ofTree t = .ok p := by
  obtain ⟨fields, found, hrecord, hperm, hfound⟩ := decodeRecord_of_reorders "struct BindProfile" h
    (show ["name", "bindings"].Nodup by decide)
  -- the two fields, matched up with those of the tree that was written
  obtain ⟨⟨_, name⟩, _, ⟨rfl, hname⟩, hlast, rfl⟩ := List.forall₂_cons_right_iff.1 hfound
  obtain ⟨⟨_, bindings⟩, _, ⟨rfl, hbindings⟩, hnil, rfl⟩ := List.forall₂_cons_right_iff.1 hlast
  obtain rfl := List.forall₂_nil_right_iff.1 hnil
  obtain rfl := Tree.reorders_string.1 hname
  obtain ⟨items, rfl, hitems⟩ := Tree.reorders_array.1 hbindings
  have hdraft := foldlM_profileDraft_of_perm (mapM_decodeEntry_of_reorders hitems) hperm
  simp only [ofTree, Except.bind_eq_ok]
  exact ⟨_, hrecord, _, hdraft, _, rfl, rfl⟩

/-! ## What was written is a document of itself -/

/-- Reordering a table with one field reorders what is below it. -/
@[simp] theorem reorders_single (key : String) (t u : Tree) :
    (single key t).reorders (single key u) = t.reorders u := by
  simp [single, Tree.reorders, Tree.reordersFields]

/-- The tree of a signal is a reordering of itself. -/
theorem Signal.reorders_tree (s : Signal) : s.tree.reorders s.tree = true := by
  cases s <;> simp [Signal.tree, Tree.reorders]

theorem Value.reorders_tree (v : Value) : v.tree.reorders v.tree = true := by
  cases v <;> simp [Value.tree, floatTree, Tree.reorders, Tree.reordersItems]

theorem Expr.reorders_tree (e : Expr) : e.tree.reorders e.tree = true := by
  induction e with
  | input s => simp [Expr.tree, s.reorders_tree]
  | constant v => simp [Expr.tree, v.reorders_tree]
  | add a b iha ihb => simp [Expr.tree, Tree.reorders, Tree.reordersItems, iha, ihb]
  | multiply a b iha ihb => simp [Expr.tree, Tree.reorders, Tree.reordersItems, iha, ihb]
  | branch c a b ihc iha ihb =>
    simp [Expr.tree, Tree.reorders, Tree.reordersFields, ihc, iha, ihb]
  | xor a b iha ihb => simp [Expr.tree, Tree.reorders, Tree.reordersItems, iha, ihb]
  | join x y ihx ihy => simp [Expr.tree, Tree.reorders, Tree.reordersFields, ihx, ihy]
  | split e axis ih => simp [Expr.tree, Tree.reorders, Tree.reordersItems, ih]
  | threshold e limit ih => simp [Expr.tree, floatTree, Tree.reorders, Tree.reordersItems, ih]
  | previous => simp [Expr.tree, Tree.reorders]

theorem ProfileEntry.reorders_tree (entry : ProfileEntry) :
    entry.tree.reorders entry.tree = true := by
  simp [ProfileEntry.tree, Tree.reorders, Tree.reordersFields, entry.expr.reorders_tree]

theorem Profile.reorders_tree (p : Profile) : p.tree.reorders p.tree = true := by
  have hitems : Tree.reordersItems (p.bindings.map (·.tree)) (p.bindings.map (·.tree)) = true := by
    rw [Tree.reordersItems_iff, List.forall₂_map_left_iff, List.forall₂_map_right_iff,
      List.forall₂_same]
    exact fun entry _ => entry.reorders_tree
  simp [Profile.tree, Profile.fields, Tree.reorders, Tree.reordersFields, hitems]

/-! ## Texts -/

/-- How documents are written as texts and read again. -/
structure TextFormat where
  write : List (String × Tree) → String
  read? : String → Option Tree

namespace TextFormat

/-- The format of the library. -/
def toml : TextFormat := ⟨documentText, Tree.ofText?⟩

/-- The text of a document is read as that document, with the fields of each table in some
    order. -/
def Keeps (format : TextFormat) (fields : List (String × Tree)) : Prop :=
  ∃ t, format.read? (format.write fields) = some t ∧ t.reorders (.table fields) = true

instance (format : TextFormat) (fields : List (String × Tree)) : Decidable (format.Keeps fields) :=
  decidable_of_iff ((format.read? (format.write fields)).any (·.reorders (.table fields)) = true)
    (Option.any_eq_true _ _)

end TextFormat

namespace Profile

variable {format : TextFormat} {p q : Profile}

/-- The text of a profile's document in a format. -/
def textIn (format : TextFormat) (p : Profile) : String := format.write p.fields

/-- The profile that a text holds in a format. -/
def ofTextIn (format : TextFormat) (text : String) : Except ParseError Profile :=
  match format.read? text with
  | none => .error .malformed
  | some t => (ofTree t).mapError .decode

theorem textIn_toml (p : Profile) : p.textIn .toml = p.text := rfl

theorem ofTextIn_toml (text : String) : ofTextIn .toml text = ofText text := rfl

/-- A document that its format keeps is read back as the profile it was written from. -/
theorem ofTextIn_textIn (hkeeps : format.Keeps p.fields) :
    ofTextIn format (p.textIn format) = .ok p := by
  obtain ⟨t, hread, ht⟩ := hkeeps
  have htext : format.read? (p.textIn format) = some t := hread
  simp only [ofTextIn, htext, ofTree_of_reorders ht]
  rfl

/-- A profile in which all constants and limits are numbers, in a format that keeps its document.
    The profile that is read from its text is equal to it.  So if it was read from a text itself,
    it is what the new text holds, too; and every profile with the same document, or with the same
    text, is equal to it. -/
theorem roundTrip_of_keeps (format : TextFormat) {p : Profile} (hnumbers : p.hasNumbers = true)
    (hkeeps : format.Keeps p.fields) :
    (∃ q, ofTextIn format (p.textIn format) = .ok q ∧ (q == p) = true) ∧
      (∀ text, ofTextIn format text = .ok p →
        ofTextIn format (p.textIn format) = ofTextIn format text) ∧
      ∀ q : Profile, (q.tree.reorders p.tree = true → (q == p) = true) ∧
        (format.Keeps q.fields → q.textIn format = p.textIn format → (q == p) = true) := by
  have hread : ofTextIn format (p.textIn format) = .ok p := ofTextIn_textIn hkeeps
  have hself : (p == p) = true := by rw [beq_self, hnumbers]
  refine ⟨⟨p, hread, hself⟩, fun text htext => hread.trans htext.symm, fun q => ⟨?_, ?_⟩⟩
  · intro htree
    -- the document of `q` is read as `q`, and as `p`
    cases (ofTree_of_reorders q.reorders_tree).symm.trans (ofTree_of_reorders htree)
    exact hself
  · intro hkeeps' htext
    have hq : ofTextIn format (q.textIn format) = .ok q := ofTextIn_textIn hkeeps'
    rw [htext] at hq
    cases hread.symm.trans hq
    exact hself

/-- A negative zero in a part that is printed as a block, behind the other part, which was written
    after it. -/
theorem roundTrip_of_join :
    let p : Profile := ⟨"it's", [⟨"a", .analog2, .join (.constant (.scalar (-0.0))) .previous⟩]⟩
    p.hasNumbers = true ∧ TextFormat.toml.Keeps p.fields ∧
      ∃ q, ofText p.text = .ok q ∧ (q == p) = true := by
  intro p
  have hnumbers : p.hasNumbers = true := by decide +kernel
  have hkeeps : TextFormat.toml.Keeps p.fields := by decide +kernel
  obtain ⟨q, hread, hself⟩ := (roundTrip_of_keeps .toml hnumbers hkeeps).1
  rw [ofTextIn_toml, textIn_toml] at hread
  exact ⟨hnumbers, hkeeps, q, hread, hself⟩

end Profile

end InputMap
