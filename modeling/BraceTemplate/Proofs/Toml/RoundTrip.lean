import BraceTemplate.Proofs.Toml.Lines

/-!
# Documents that were written

The lines of a table fill the place at which it was opened, first with its values,
then with its tables and arrays of tables.  So a document is read back from its text,
unless a value in it is nested too deep to be read at all.
-/

namespace BraceTemplate.Toml

open Dictionary (names)

/-! ## Nesting -/

def inlineDepth : Json → Nat
  | .null | .bool _ | .integer _ | .float _ | .string _ => 0
  | .array items => (items.map inlineDepth).foldr max 0
  | .object members =>
      (members.map fun member =>
        if hasHeader member.2 then inlineDepth member.2 else member.2.depth).foldr max 0
termination_by document => document
decreasing_by
  · have := List.sizeOf_lt_of_mem ‹_›
    simp only [Json.array.sizeOf_spec]
    omega
  · have := Dictionary.sizeOf_snd_lt ‹_›
    simp only [Json.object.sizeOf_spec]
    omega

theorem inlineDepth_le_array {items : List Json} {item : Json} (h : item ∈ items) :
    inlineDepth item ≤ inlineDepth (.array items) := by
  rw [inlineDepth.eq_def (.array items)]
  exact le_foldr_max (List.mem_map_of_mem h)

section Members

variable {members : Dictionary Json} {member : String × Json}

theorem le_inlineDepth_object (h : member ∈ members) :
    (if hasHeader member.2 then inlineDepth member.2 else member.2.depth) ≤
      inlineDepth (.object members) := by
  rw [inlineDepth.eq_def (.object members)]
  exact le_foldr_max (List.mem_map_of_mem
    (f := fun member => if hasHeader member.2 then inlineDepth member.2 else member.2.depth) h)

theorem inlineDepth_le_object (h : member ∈ members) (hheader : hasHeader member.2 = true) :
    inlineDepth member.2 ≤ inlineDepth (.object members) := by
  have hle := le_inlineDepth_object h
  rwa [if_pos hheader] at hle

theorem depth_le_object (h : member ∈ members) (hheader : hasHeader member.2 = false) :
    member.2.depth ≤ inlineDepth (.object members) := by
  have hle := le_inlineDepth_object h
  rwa [if_neg (by simp [hheader])] at hle

end Members

theorem inlineDepth_le_depth (document : Json) : inlineDepth document ≤ document.depth := by
  induction document using inlineDepth.induct with
  | case1 | case2 | case3 | case4 | case5 => rw [inlineDepth]; exact Nat.zero_le _
  | case6 items ih =>
      rw [inlineDepth]
      refine foldr_max_le (List.forall_mem_map.mpr fun item hmem => ?_)
      exact (ih item hmem).trans (Json.depth_lt_array hmem).le
  | case7 members ih =>
      rw [inlineDepth]
      refine foldr_max_le (List.forall_mem_map.mpr fun member hmem => ?_)
      have hlt := Json.depth_lt_object hmem
      split
      · exact (ih member hmem).trans hlt.le
      · exact hlt.le

namespace Reader

/-! ## Assignments -/

def filled (header : List String) (place : Place) (entries : Dictionary Node) : Document :=
  ⟨header, Table.headed (place.fill entries)⟩

theorem leads_of_assignments (place : Place) {members : Dictionary Json} {lines : List String}
    (h : List.Forall₂ (fun member line => AssignsIn 0 member line.toList) members lines)
    (done : Dictionary Json) (hnames : (names (done ++ members)).Nodup) :
    Leads lines (filled place.path place (Table.values done))
      (filled place.path place (Table.values (done ++ members))) := by
  induction h generalizing done with
  | nil =>
      rw [List.append_nil]
      exact .nil _
  | @cons member line members lines hline _ ih =>
      have hnew : member.1 ∉ names (Table.values done) := by
        rw [Table.names_values]
        exact Dictionary.not_mem_names_of_nodup hnames
      have hmoved : done ++ member :: members = done ++ [member] ++ members := by simp
      have hfirst := leads_of_assignment hline (d := filled place.path place (Table.values done))
        (place.assign?_fill hnew member.2)
      have hrest := ih (done ++ [member]) (hmoved ▸ hnames)
      rw [Table.values_append] at hrest
      rw [hmoved]
      exact hfirst.cons hrest

/-! ## Tables under headers -/

def documents (entries : Dictionary Node) : Dictionary Json :=
  entries.map fun entry => (entry.1, entry.2.toJson)

theorem documents_append (first second : Dictionary Node) :
    documents (first ++ second) = documents first ++ documents second := List.map_append

theorem documents_values (members : Dictionary Json) :
    documents (Table.values members) = members := by
  rw [documents, Table.values, List.map_map]
  simp [Function.comp_def, Node.toJson]

def ReadsTable (document : Json) : Prop :=
  ∀ (place : Place) (lines : List String), tableLines? place.path document = some lines →
    ∃ header entries, Leads lines (filled place.path place []) (filled header place entries) ∧
      Json.ofMembers (documents entries) = document.sorted

def ReadsSection (document : Json) : Prop :=
  ∀ (place : Place) (before : Dictionary Node) (name : String), name ∉ names before →
    ∀ lines, sectionLines? (place.path ++ [name]) document = some lines →
      ∀ header, ∃ last node,
        Leads lines (filled header place before) (filled last place (before ++ [(name, node)])) ∧
          node.toJson = document.sorted

theorem readsSection_object {members : Dictionary Json} (h : ReadsTable (.object members)) :
    ReadsSection (.object members) := by
  intro place before name hname lines hlines header
  obtain ⟨inner, hinner, rfl⟩ := Option.map_eq_some_iff.mp hlines
  obtain ⟨last, entries, hleads, hentries⟩ := h (.table place before name hname) inner hinner
  refine ⟨last, .table false false entries, ?_, by rw [Node.toJson]; exact hentries⟩
  have hheader := leads_of_header (d := filled header place before) (place.openTable?_fill hname)
  exact hheader.cons hleads

theorem leads_of_element {item : Json} (h : ReadsTable item) {place : Place}
    {before : Dictionary Node} {name : String} {hname : name ∉ names before}
    {done : List (Dictionary Node)} {d : Document}
    (hopen : d.root.openElement? place.path name =
      some (Table.headed ((Place.element place before name hname done).fill [])))
    {lines : List String} (hlines : elementSection? (place.path ++ [name]) item = some lines) :
    ∃ last entries, Leads lines d (filled last (.element place before name hname done) entries) ∧
      Json.ofMembers (documents entries) = item.sorted := by
  obtain ⟨inner, hinner, rfl⟩ := Option.map_eq_some_iff.mp hlines
  obtain ⟨last, entries, hleads, hentries⟩ := h (.element place before name hname done) inner hinner
  exact ⟨last, entries, (leads_of_elementHeader hopen).cons hleads, hentries⟩

theorem leads_of_elements {place : Place} {before : Dictionary Node} {name : String}
    (hname : name ∉ names before) {items : List Json} {sections : List (List String)}
    (h : List.Forall₂ (fun item lines => elementSection? (place.path ++ [name]) item = some lines)
      items sections) (hread : ∀ item ∈ items, ReadsTable item) (header : List String)
    (entries : Dictionary Node) (done : List (Dictionary Node)) :
    ∃ last more, Leads sections.flatten
        (filled header (.element place before name hname done) entries)
        (filled last place (before ++ [(name, .tables (more ++ entries :: done))])) ∧
      more.reverse.map (fun entries => Json.ofMembers (documents entries)) =
        items.map Json.sorted := by
  induction h generalizing header entries done with
  | nil => exact ⟨header, [], .nil _, rfl⟩
  | @cons item lines items sections hlines _ ih =>
      obtain ⟨hitem, hitems⟩ := List.forall_mem_cons.mp hread
      obtain ⟨middle, next, hfirst, hnext⟩ := leads_of_element hitem
        (d := filled header (.element place before name hname done) entries)
        (place.openElement?_fill hname done) hlines
      obtain ⟨last, more, hrest, hmore⟩ := ih hitems middle next (entries :: done)
      refine ⟨last, more ++ [next], ?_, by simp [hnext, hmore]⟩
      rw [List.flatten_cons, List.append_assoc]
      exact hfirst.append hrest

theorem readsSection_array {items : List Json} (hheader : hasHeader (.array items) = true)
    (h : ∀ item ∈ items, ReadsTable item) : ReadsSection (.array items) := by
  intro place before name hname lines hlines header
  rw [sectionLines?, if_pos hheader, elementLines?_eq_mapM] at hlines
  obtain ⟨sections, hsections, rfl⟩ := Option.map_eq_some_iff.mp hlines
  cases mapM_eq_some_iff.mp hsections with
  | nil => cases hheader
  | @cons item lines items sections hfirst hrest =>
      obtain ⟨hitem, hitems⟩ := List.forall_mem_cons.mp h
      obtain ⟨middle, entries, hleads, hentries⟩ := leads_of_element hitem
        (d := filled header place before) (place.openElement?_fill_first hname) hfirst
      obtain ⟨last, more, hmore, hdocuments⟩ :=
        leads_of_elements hname hrest hitems middle entries []
      refine ⟨last, .tables (more ++ [entries]), hleads.append hmore, ?_⟩
      rw [Node.toJson, Json.sorted]
      simp only [documents] at hentries hdocuments
      simpa [hentries] using hdocuments

theorem sectionLines?_of_not_hasHeader (path : List String) {document : Json}
    (h : hasHeader document = false) : sectionLines? path document = some [] := by
  cases document with
  | object members => cases h
  | array items => rw [sectionLines?, if_neg (by simp [h])]
  | _ => rfl

def inlineMembers (members : Dictionary Json) : Dictionary Json :=
  members.filter fun member => !hasHeader member.2

def headedMembers (members : Dictionary Json) : Dictionary Json :=
  members.filter fun member => hasHeader member.2

def sortedMembers (members : Dictionary Json) : Dictionary Json :=
  members.map fun member => (member.1, member.2.sorted)

theorem inlineMembers_append_perm (members : Dictionary Json) :
    (inlineMembers members ++ headedMembers members).Perm members :=
  List.perm_append_comm.trans (List.filter_append_perm _ _)

theorem names_sortedMembers (members : Dictionary Json) :
    names (sortedMembers members) = names members := Dictionary.names_map Json.sorted members

theorem sortedMembers_append (first second : Dictionary Json) :
    sortedMembers (first ++ second) = sortedMembers first ++ sortedMembers second := List.map_append

theorem leads_of_sections {place : Place} {members : Dictionary Json}
    {sections : List (List String)}
    (h : List.Forall₂ (fun member lines =>
      sectionLines? (place.path ++ [member.1]) member.2 = some lines) members sections)
    (hread : ∀ member ∈ members, hasHeader member.2 = true → ReadsSection member.2)
    (before : Dictionary Node) (header : List String)
    (hnames : (names before ++ names (headedMembers members)).Nodup) :
    ∃ last nodes, Leads sections.flatten (filled header place before)
        (filled last place (before ++ nodes)) ∧
      documents nodes = sortedMembers (headedMembers members) := by
  induction h generalizing before header with
  | nil => exact ⟨header, [], by rw [List.append_nil]; exact .nil _, rfl⟩
  | @cons member lines members sections hlines _ ih =>
      obtain ⟨hmember, hmembers⟩ := List.forall_mem_cons.mp hread
      cases hheader : hasHeader member.2 with
      | false =>
          have hskipped : headedMembers (member :: members) = headedMembers members :=
            List.filter_cons_of_neg (by simp [hheader])
          rw [sectionLines?_of_not_hasHeader _ hheader] at hlines
          obtain rfl := Option.some.inj hlines
          rw [hskipped] at hnames ⊢
          exact ih hmembers before header hnames
      | true =>
          have hkept : headedMembers (member :: members) = member :: headedMembers members :=
            List.filter_cons_of_pos (by simp [hheader])
          have hmoved (node : Node) : names (before ++ [(member.1, node)]) =
              names before ++ [member.1] := List.map_append
          rw [hkept] at hnames ⊢
          have hnew : member.1 ∉ names before := fun hmem =>
            (List.nodup_append.mp hnames).2.2 _ hmem _ List.mem_cons_self rfl
          obtain ⟨middle, node, hfirst, hnode⟩ :=
            hmember hheader place before member.1 hnew lines hlines header
          obtain ⟨last, nodes, hrest, hnodes⟩ := ih hmembers (before ++ [(member.1, node)]) middle
            (by rw [hmoved, List.append_assoc]; exact hnames)
          refine ⟨last, (member.1, node) :: nodes, ?_, ?_⟩
          · rw [List.append_assoc] at hrest
            exact hfirst.append hrest
          · rw [sortedMembers, List.map_cons, ← hnode]
            exact congrArg ((member.1, node.toJson) :: ·) hnodes

theorem assignsIn_of_mapM {members : Dictionary Json} (h : ∀ member ∈ members, Exact member.2)
    (hdepth : inlineDepth (.object members) ≤ maxNesting) {lines : List String}
    (hlines : (inlineMembers members).mapM writeAssignment? = some lines) :
    List.Forall₂ (fun member line => AssignsIn 0 member line.toList)
      (sortedMembers (inlineMembers members)) lines := by
  rw [sortedMembers, List.forall₂_map_left_iff]
  refine forall₂_of_mapM hlines fun member hmem line hline =>
    assignsIn_of_writeAssignment? hline fun text htext => ?_
  obtain ⟨hmem, hheader⟩ := List.mem_filter.mp hmem
  exact readsIn_of_writeValue? (h member hmem) htext
    ((depth_le_object hmem (by simpa using hheader)).trans hdepth)

theorem readsTable_object {members : Dictionary Json} (h : Exact (.object members))
    (hdepth : inlineDepth (.object members) ≤ maxNesting)
    (hread : ∀ member ∈ members, hasHeader member.2 = true → ReadsSection member.2) :
    ReadsTable (.object members) := by
  intro place lines hlines
  obtain ⟨assignments, sections, hassignments, hsections, rfl⟩ := tableLines?_eq_some_iff.mp hlines
  cases h with
  | object hnames hmembers =>
      -- the values come first, and then what has headers
      have hperm := inlineMembers_append_perm members
      have hapart : (names (Table.values (sortedMembers (inlineMembers members))) ++
          names (headedMembers members)).Nodup := by
        rw [Table.names_values, names_sortedMembers, names, names, ← List.map_append]
        exact (hperm.map Prod.fst).nodup_iff.mpr hnames
      have hfirst := leads_of_assignments place (assignsIn_of_mapM hmembers hdepth hassignments) []
        (Table.names_values _ ▸ (List.nodup_append.mp hapart).1)
      obtain ⟨last, nodes, hrest, hnodes⟩ := leads_of_sections (mapM_eq_some_iff.mp hsections) hread
        (Table.values (sortedMembers (inlineMembers members))) place.path hapart
      refine ⟨last, _ ++ nodes, hfirst.append hrest, ?_⟩
      rw [documents_append, documents_values, hnodes, ← sortedMembers_append,
        Json.sorted]
      refine Json.ofMembers_perm ?_ (hperm.map _)
      rw [names_sortedMembers]
      exact (hperm.map Prod.fst).nodup_iff.mpr hnames

theorem readsTable_of_not_object {document : Json} (h : isTable document = false) :
    ReadsTable document := by
  intro place lines hlines
  cases document with
  | object members => cases h
  | _ => cases hlines

theorem reads_of_exact {document : Json} (h : Exact document)
    (hdepth : inlineDepth document ≤ maxNesting) :
    ReadsTable document ∧ (hasHeader document = true → ReadsSection document) := by
  induction h with
  | bool | integer | float | string => exact ⟨readsTable_of_not_object rfl, nofun⟩
  | array _ ih =>
      refine ⟨readsTable_of_not_object rfl, fun hheader => ?_⟩
      refine readsSection_array hheader fun item hmem => ?_
      exact (ih item hmem ((inlineDepth_le_array hmem).trans hdepth)).1
  | object hnames hmembers ih =>
      have htable := readsTable_object (.object hnames hmembers) hdepth fun member hmem hheader =>
        (ih member hmem ((inlineDepth_le_object hmem hheader).trans hdepth)).2 hheader
      exact ⟨htable, fun _ => readsSection_object htable⟩

/-! ## Texts -/

theorem length_le_unlines (lines : List String) : lines.length ≤ (unlines lines).length := by
  induction lines with
  | nil => exact Nat.le_refl _
  | cons line lines ih =>
      simp only [unlines, List.flatMap_cons, List.length_append, List.length_cons,
        List.length_nil] at ih ⊢
      omega

end Reader

open Reader (Leads unlines)

theorem read?_of_head {t : Text} (h : ∀ c ∈ t.head?, c.toNat ≠ 0xFEFF) :
    read? t = ((Reader.readLines (t.length + 1) ⟨[], .root⟩).run t).map Prod.fst := by
  cases t with
  | nil => rfl
  | cons c rest => simp [read?, h c rfl]

theorem head_unlines {lines : List String}
    (h : ∀ line ∈ lines, ∃ c u, line.toList = c :: u ∧ c.toNat ≠ 0xFEFF) :
    ∀ c ∈ (unlines lines).head?, c.toNat ≠ 0xFEFF := by
  intro c hc
  cases lines with
  | nil => cases hc
  | cons line rest =>
      obtain ⟨first, letters, hline, hfirst⟩ := h line List.mem_cons_self
      rw [unlines, List.flatMap_cons, hline] at hc
      obtain rfl := Option.some.inj hc
      exact hfirst

theorem read?_unlines {lines : List String} {d : Reader.Document}
    (h : Leads lines ⟨[], .root⟩ d) : read? (unlines lines) = some d.root.toJson := by
  have hlength := Reader.length_le_unlines lines
  have hfuel : (unlines lines).length + 1 =
      ((unlines lines).length - lines.length + 1) + lines.length := by omega
  have hrun := h.run ((unlines lines).length - lines.length + 1) []
  rw [List.append_nil] at hrun
  rw [read?_of_head (head_unlines h.unmarked), hfuel, hrun]
  rfl

theorem toList_join_lines (lines : List String) :
    (String.join (lines.map (· ++ "\n"))).toList = unlines lines := by
  rw [String.toList_join, unlines]
  simp [List.flatMap_map]

/-- What was written is read back, unless a value is nested too deep to be read. -/
theorem read?_write? {document : Json} (h : Exact document)
    (hdepth : inlineDepth document ≤ Reader.maxNesting) {text : String}
    (hwrite : write? document = some text) : read? text.toList = some document.sorted := by
  obtain ⟨lines, hlines, htext⟩ := Option.bind_eq_some_iff.mp hwrite
  obtain rfl := Option.some.inj htext
  obtain ⟨header, entries, hleads, hentries⟩ :=
    (Reader.reads_of_exact h hdepth).1 .root lines hlines
  rw [toList_join_lines, read?_unlines hleads, ← hentries]
  exact congrArg some (by rw [Table.toJson, Table.toNode, Node.toJson]; rfl)

theorem inverts_of_le {depth : Nat} (h : depth ≤ Reader.maxNesting) : Library.Inverts depth :=
  fun _ _ hexact hdepth hwrite =>
    read?_write? hexact ((inlineDepth_le_depth _).trans (hdepth.trans h)) hwrite

end BraceTemplate.Toml
