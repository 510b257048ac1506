import ClassDiagram.Proofs.Diagram.Narrowing

/-! # What a diagram hides

A diagram shows nothing of a declaration that its filter hides.  Of a type that is not drawn only
the name and the interfaces count, which decide what is drawn of other types; of a drawn type its
visibility and the members without a line do not count; of the accessors of a property only whether
the filter allows them; and later declarations of a name do not count at all.

`TypeDecl.Alike` compares two declarations as far as a filter can tell them apart, and catalogs
whose first declarations are alike have the same diagram (`draw_eq_of_alike`).  `seenTypes` takes
away from a catalog whatever does not count.  `render_hides` says of both that the text stays the
same, for catalogs that find first declarations, as lists do (`firstMatch_list`) and all graphs that
are built (`Graph.firstMatch_build`). -/

namespace ClassDiagram

open List (Forall₂)

/-! ### What a filter shows -/

/-- What is left of an accessor: whether the filter allows it. -/
def Filter.seenAccessor (filter : Filter) (accessor : Option Accessor) : Option Accessor :=
  if filter.allowsAccessor accessor then some {} else none

theorem Filter.allows_pub (filter : Filter) : filter.allows .pub = true := by
  cases filter <;> rfl

theorem Filter.allowsAccessor_seenAccessor (filter : Filter) (accessor : Option Accessor) :
    filter.allowsAccessor (filter.seenAccessor accessor) = filter.allowsAccessor accessor := by
  unfold seenAccessor
  cases hallows : filter.allowsAccessor accessor with
  | true => exact filter.allows_pub
  | false => rfl

theorem Filter.seenAccessor_seenAccessor (filter : Filter) (accessor : Option Accessor) :
    filter.seenAccessor (filter.seenAccessor accessor) = filter.seenAccessor accessor := by
  rw [seenAccessor, allowsAccessor_seenAccessor]
  rfl

namespace Member

/-- The member without what the filter hides of its accessors. -/
def seen (filter : Filter) : Member → Member
  | .field f => .field f
  | .method m => .method m
  | .property p =>
    .property { p with
      getter := filter.seenAccessor p.getter
      setter := filter.seenAccessor p.setter }

variable (filter : Filter) (m : Member)

theorem shown_seen : (m.seen filter).shown filter = m.shown filter := by
  cases m <;> rfl

theorem seen_seen : (m.seen filter).seen filter = m.seen filter := by
  cases m with
  | field f => rfl
  | method m => rfl
  | property p => simp only [seen, Filter.seenAccessor_seenAccessor]

theorem line?_seen : (m.seen filter).line? filter = m.line? filter := by
  cases m with
  | field f => rfl
  | method m => rfl
  | property p =>
      have hmarks : Property.marks filter { p with
          getter := filter.seenAccessor p.getter
          setter := filter.seenAccessor p.setter } = p.marks filter := by
        simp only [Property.marks, Filter.allowsAccessor_seenAccessor]
      have hline := congrArg (p.visibility.glyph ++ p.type ++ " " ++ p.name ++ ·) hmarks
      exact congrArg (fun line => if filter.allows p.visibility then some line else none) hline

theorem line?_eq_none {filter : Filter} {m : Member} (h : m.shown filter = false) :
    m.line? filter = none := by
  rw [← text_markedLine?, markedLine?, h]
  rfl

end Member

namespace TypeDecl

/-- Whether a declaration is drawn if it is the first of its name. -/
def drawn (filter : Filter) (t : TypeDecl) : Bool :=
  t.shape?.isSome && filter.allows t.visibility

/-- The members that have a line, without what the filter hides. -/
def seenMembers (filter : Filter) (t : TypeDecl) : List Member :=
  (t.members.filter (Member.shown filter)).map (Member.seen filter)

/-- The declaration without what the filter hides.  One that is not drawn keeps its name and its
interfaces. -/
def seen (filter : Filter) (t : TypeDecl) : TypeDecl :=
  if t.drawn filter then { t with visibility := .pub, members := t.seenMembers filter }
  else { name := t.name, kind := .unknown, interfaces := t.interfaces }

/-- Drawn declarations whose blocks the filter cannot tell apart. -/
structure SameFront (filter : Filter) (t t' : TypeDecl) : Prop where
  kind_eq : t.kind = t'.kind
  isAbstract_eq : t.isAbstract = t'.isAbstract
  base_eq : t.base = t'.base
  enumMembers_eq : t.enumMembers = t'.enumMembers
  members_eq : t.seenMembers filter = t'.seenMembers filter

/-- Declarations that the filter cannot tell apart. -/
structure Alike (filter : Filter) (t t' : TypeDecl) : Prop where
  name_eq : t.name = t'.name
  interfaces_eq : t.interfaces = t'.interfaces
  drawn_eq : t.drawn filter = t'.drawn filter
  front : t.drawn filter = true → t.SameFront filter t'

instance (filter : Filter) (t t' : TypeDecl) : Decidable (t.SameFront filter t') :=
  decidable_of_iff
    (t.kind = t'.kind ∧ t.isAbstract = t'.isAbstract ∧ t.base = t'.base ∧
      t.enumMembers = t'.enumMembers ∧ t.seenMembers filter = t'.seenMembers filter)
    ⟨fun ⟨h₁, h₂, h₃, h₄, h₅⟩ => ⟨h₁, h₂, h₃, h₄, h₅⟩,
      fun ⟨h₁, h₂, h₃, h₄, h₅⟩ => ⟨h₁, h₂, h₃, h₄, h₅⟩⟩

instance (filter : Filter) (t t' : TypeDecl) : Decidable (t.Alike filter t') :=
  decidable_of_iff
    (t.name = t'.name ∧ t.interfaces = t'.interfaces ∧ t.drawn filter = t'.drawn filter ∧
      (t.drawn filter = true → t.SameFront filter t'))
    ⟨fun ⟨h₁, h₂, h₃, h₄⟩ => ⟨h₁, h₂, h₃, h₄⟩, fun ⟨h₁, h₂, h₃, h₄⟩ => ⟨h₁, h₂, h₃, h₄⟩⟩

variable {filter : Filter}

theorem Alike.refl (t : TypeDecl) : t.Alike filter t :=
  ⟨rfl, rfl, rfl, fun _ => ⟨rfl, rfl, rfl, rfl, rfl⟩⟩

/-- Taking away what is hidden twice is taking it away once. -/
theorem seenMembers_map_seen (t : TypeDecl) :
    ((t.seenMembers filter).filter (Member.shown filter)).map (Member.seen filter) =
      t.seenMembers filter := by
  have hshown : (t.seenMembers filter).filter (Member.shown filter) = t.seenMembers filter := by
    refine List.filter_eq_self.mpr fun m hm => ?_
    obtain ⟨m', hm', rfl⟩ := List.mem_map.mp hm
    rw [Member.shown_seen]
    exact (List.mem_filter.mp hm').2
  rw [hshown, seenMembers, List.map_map]
  exact List.map_congr_left fun m _ => Member.seen_seen filter m

/-- The lines of the members come from what is seen of them. -/
theorem lines_seenMembers (t : TypeDecl) :
    (t.seenMembers filter).filterMap (Member.line? filter) =
      t.members.filterMap (Member.line? filter) := by
  unfold seenMembers
  rw [List.filterMap_map, List.filterMap_filter]
  refine List.filterMap_congr fun m _ => ?_
  cases hshown : m.shown filter with
  | true => exact Member.line?_seen filter m
  | false => exact (Member.line?_eq_none hshown).symm

/-- A declaration cannot be told from what is seen of it. -/
theorem alike_seen (t : TypeDecl) : t.Alike filter (t.seen filter) := by
  unfold seen
  cases hdrawn : t.drawn filter with
  | false => exact ⟨rfl, rfl, hdrawn.trans rfl, fun h => absurd (hdrawn.symm.trans h) nofun⟩
  | true =>
      have hshape := (Bool.and_eq_true_iff.mp hdrawn).1
      refine ⟨rfl, rfl, ?_, fun _ => ⟨rfl, rfl, rfl, rfl, (seenMembers_map_seen t).symm⟩⟩
      rw [hdrawn]
      exact (Bool.and_eq_true_iff.mpr ⟨hshape, filter.allows_pub⟩).symm

theorem entry?_of_drawn {t : TypeDecl} {shape : Shape} (hshape : t.shape? = some shape)
    (h : t.drawn filter = true) : t.entry? filter = some ⟨t, shape⟩ :=
  entry?_eq_some.mpr ⟨rfl, hshape, (Bool.and_eq_true_iff.mp h).2⟩

theorem entry?_of_not_drawn {t : TypeDecl} (h : t.drawn filter = false) :
    t.entry? filter = none := by
  refine Option.eq_none_iff_forall_ne_some.mpr fun e he => ?_
  obtain ⟨rfl, hshape, hallows⟩ := entry?_eq_some.mp he
  simp [drawn, hshape, hallows] at h

end TypeDecl

/-! ### Entries that look alike -/

/-- Entries that the filter cannot tell apart. -/
structure Entry.Alike (filter : Filter) (e e' : Entry) : Prop where
  name_eq : e.name = e'.name
  interfaces_eq : e.decl.interfaces = e'.decl.interfaces
  shape_eq : e.shape = e'.shape
  front : e.decl.SameFront filter e'.decl

theorem TypeDecl.Alike.entry? {filter : Filter} {t t' : TypeDecl} (h : t.Alike filter t') :
    Option.Rel (Entry.Alike filter) (t.entry? filter) (t'.entry? filter) := by
  cases hdrawn : t.drawn filter with
  | false =>
      rw [entry?_of_not_drawn hdrawn, entry?_of_not_drawn (h.drawn_eq ▸ hdrawn)]
      exact .none
  | true =>
      have hfront := h.front hdrawn
      obtain ⟨shape, hshape⟩ := Option.isSome_iff_exists.mp (Bool.and_eq_true_iff.mp hdrawn).1
      have hshape' : t'.shape? = some shape := by
        rw [← hshape]
        exact congrArg TypeKind.shape? hfront.kind_eq.symm
      rw [entry?_of_drawn hshape hdrawn, entry?_of_drawn hshape' (h.drawn_eq ▸ hdrawn)]
      exact .some ⟨h.name_eq, h.interfaces_eq, rfl, hfront⟩

namespace Entry.Alike

variable {filter : Filter} {e e' : Entry}

theorem keyword_eq (h : e.Alike filter e') : e.keyword = e'.keyword := by
  unfold keyword
  rw [h.shape_eq, h.front.isAbstract_eq]

theorem body_eq (h : e.Alike filter e') : e.body filter = e'.body filter := by
  have hmembers : e.decl.members.filterMap (Member.line? filter) =
      e'.decl.members.filterMap (Member.line? filter) := by
    rw [← TypeDecl.lines_seenMembers, ← TypeDecl.lines_seenMembers, h.front.members_eq]
  unfold body
  rw [h.shape_eq, h.front.enumMembers_eq, hmembers]

end Entry.Alike

/-! ### Catalogs that look alike -/

section catalogs
variable {κ κ' : Type} [Catalog κ] [Catalog κ'] {catalog : κ} {catalog' : κ'}
  {selection selection' : Selection} {filter : Filter}

/-- Searches in lists of related elements find what cannot be told apart. -/
theorem map_find?_of_forall₂ {α β γ : Type} {R : α → β → Prop} {p : α → Bool} {q : β → Bool}
    {f : α → γ} {g : β → γ} (hpq : ∀ a b, R a b → p a = q b) (hfg : ∀ a b, R a b → f a = g b)
    {as : List α} {bs : List β} (h : Forall₂ R as bs) :
    (as.find? p).map f = (bs.find? q).map g := by
  induction h with
  | nil => rfl
  | @cons a b as bs hab _ ih =>
      rw [List.find?_cons, List.find?_cons, ← hpq a b hab]
      cases p a with
      | true => exact congrArg some (hfg a b hab)
      | false => exact ih

theorem find?_eq_find?_firsts (hmatch : Catalog.FirstMatch catalog) (name : String) :
    Catalog.find? catalog name =
      (firsts TypeDecl.name (Catalog.types catalog)).find? (·.name == name) := by
  rw [hmatch, firstDecl?]
  exact (find?_firsts TypeDecl.name name _).symm

/-- Alike catalogs know the same interfaces of every name. -/
theorem interfaces_of_alike (hmatch : Catalog.FirstMatch catalog)
    (hmatch' : Catalog.FirstMatch catalog')
    (h : Forall₂ (TypeDecl.Alike filter) (firsts TypeDecl.name (Catalog.types catalog))
      (firsts TypeDecl.name (Catalog.types catalog'))) (name : String) :
    (Catalog.find? catalog name).map TypeDecl.interfaces =
      (Catalog.find? catalog' name).map TypeDecl.interfaces := by
  rw [find?_eq_find?_firsts hmatch, find?_eq_find?_firsts hmatch']
  exact map_find?_of_forall₂ (fun t t' ht => by rw [ht.name_eq]) (fun _ _ ht => ht.interfaces_eq) h

theorem TypeDecl.implies_congr {t t' : TypeDecl} (hname : t.name = t'.name)
    (hinterfaces : t.interfaces = t'.interfaces)
    (hfind : ∀ name, (Catalog.find? catalog name).map TypeDecl.interfaces =
      (Catalog.find? catalog' name).map TypeDecl.interfaces) (i : TypeRef) :
    t.implies catalog i = t'.implies catalog' i := by
  have hany : ∀ other, (Catalog.find? catalog other).any (·.implements i) =
      (Catalog.find? catalog' other).any (·.implements i) := fun other => by
    have h := congrArg (Option.any (·.contains i)) (hfind other)
    rwa [Option.any_map, Option.any_map] at h
  unfold implies
  simp only [hname, hinterfaces, hany]

/-- Alike entries have the same block where the same names are drawn and the same interfaces are
known. -/
theorem Entry.Alike.block_eq {e e' : Entry} (h : e.Alike filter e')
    (hfilter : selection.filter = filter) (hfilter' : selection'.filter = filter)
    (hcontains : ∀ name, selection.contains name = selection'.contains name)
    (hfind : ∀ name, (Catalog.find? catalog name).map TypeDecl.interfaces =
      (Catalog.find? catalog' name).map TypeDecl.interfaces) :
    e.block catalog selection = e'.block catalog' selection' := by
  have hname : e.decl.name = e'.decl.name := h.name_eq
  have hbase : e.decl.drawnBase? selection = e'.decl.drawnBase? selection' := by
    simp only [TypeDecl.drawnBase?, h.front.base_eq, hname, hcontains]
  have hinterfaces : e.decl.drawnInterfaces selection = e'.decl.drawnInterfaces selection' := by
    simp only [TypeDecl.drawnInterfaces, h.interfaces_eq, hname, hcontains]
  have himplies := TypeDecl.implies_congr hname h.interfaces_eq hfind
  have hedges : e.edges catalog selection = e'.edges catalog' selection' := by
    simp only [Entry.edges, h.shape_eq, h.name_eq, hbase, hinterfaces, himplies]
  simp only [Entry.block, hfilter, hfilter', h.keyword_eq, h.name_eq, h.body_eq, hedges]

theorem entries_of_alike
    (h : Forall₂ (TypeDecl.Alike filter) (firsts TypeDecl.name (Catalog.types catalog))
      (firsts TypeDecl.name (Catalog.types catalog'))) :
    Forall₂ (Entry.Alike filter) (Selection.of catalog filter).entries
      (Selection.of catalog' filter).entries := by
  rw [Selection.entries_of, Selection.entries_of]
  exact List.rel_filterMap (fun _ _ ht => ht.entry?) h

theorem contains_of_alike
    (h : Forall₂ (Entry.Alike filter) (Selection.of catalog filter).entries
      (Selection.of catalog' filter).entries) (name : String) :
    (Selection.of catalog filter).contains name = (Selection.of catalog' filter).contains name := by
  have hnames : (Selection.of catalog filter).entries.map Entry.name =
      (Selection.of catalog' filter).entries.map Entry.name :=
    List.forall₂_eq_eq_eq ▸ List.rel_map (fun _ _ he => he.name_eq) h
  rw [Selection.contains, Selection.contains, Selection.names_of, Selection.names_of, hnames]

/-- Catalogs that the filter cannot tell apart have the same diagram. -/
theorem draw_eq_of_alike (theme : String) (hmatch : Catalog.FirstMatch catalog)
    (hmatch' : Catalog.FirstMatch catalog')
    (h : Forall₂ (TypeDecl.Alike filter) (firsts TypeDecl.name (Catalog.types catalog))
      (firsts TypeDecl.name (Catalog.types catalog'))) :
    draw theme catalog filter = draw theme catalog' filter := by
  have hentries := entries_of_alike h
  have hcontains := contains_of_alike hentries
  have hfind := interfaces_of_alike hmatch hmatch' h
  have hblocks : (Selection.of catalog filter).entries.map
        (Entry.block catalog (Selection.of catalog filter)) =
      (Selection.of catalog' filter).entries.map
        (Entry.block catalog' (Selection.of catalog' filter)) :=
    List.forall₂_eq_eq_eq ▸
      List.rel_map (fun _ _ he => he.block_eq rfl rfl hcontains hfind) hentries
  exact congrArg (Diagram.mk theme) hblocks

end catalogs

/-! ### Nothing hidden counts -/

variable {κ : Type} [Catalog κ]

/-- What can be seen of a catalog: of each name the first declaration, without what is hidden. -/
def seenTypes (filter : Filter) (catalog : κ) : List TypeDecl :=
  (firsts TypeDecl.name (Catalog.types catalog)).map (TypeDecl.seen filter)

/-- What can be seen declares each name once. -/
theorem firsts_seenTypes (filter : Filter) (catalog : κ) :
    firsts TypeDecl.name (seenTypes filter catalog) = seenTypes filter catalog := by
  refine firsts_eq_self ?_
  have hnames : (seenTypes filter catalog).map TypeDecl.name =
      (firsts TypeDecl.name (Catalog.types catalog)).map TypeDecl.name := by
    rw [seenTypes, List.map_map]
    exact List.map_congr_left fun t _ => t.alike_seen.name_eq.symm
  rw [hnames]
  exact nodup_firsts TypeDecl.name _

/-- **What the filter hides does not show in the text**: the text is that of what can be seen, and
it is the text of every catalog that the filter cannot tell from this one. -/
theorem render_hides (theme : String) (filter : Filter) (catalog : κ)
    (hmatch : Catalog.FirstMatch catalog) :
    render theme catalog filter = render theme (seenTypes filter catalog) filter ∧
    ∀ {κ' : Type} [Catalog κ'] (catalog' : κ'), Catalog.FirstMatch catalog' →
      Forall₂ (TypeDecl.Alike filter) (firsts TypeDecl.name (Catalog.types catalog))
        (firsts TypeDecl.name (Catalog.types catalog')) →
      render theme catalog filter = render theme catalog' filter := by
  refine ⟨?_, fun catalog' hmatch' h => ?_⟩
  · refine congrArg Diagram.text (draw_eq_of_alike theme hmatch (firstMatch_list _) ?_)
    show Forall₂ _ _ (firsts TypeDecl.name (seenTypes filter catalog))
    rw [firsts_seenTypes]
    exact List.forall₂_map_right_iff.mpr (List.forall₂_same.mpr fun t _ => t.alike_seen)
  · exact congrArg Diagram.text (draw_eq_of_alike theme hmatch hmatch' h)

/-- A ship with a hidden member and a hidden setter; a hidden interface brings in a public one. -/
def harbor : List TypeDecl :=
  [{ name := "Ship", interfaces := ["Floating", "Hull"], members := [
      .field { name := "owner", visibility := .priv, type := "string" },
      .property { name := "Draft", type := "int", getter := some {},
                  setter := some { visibility := .priv } }] },
    { name := "Hull", kind := .interfaceType, visibility := .priv, interfaces := ["Floating"],
      members := [.method { name := "Scrub" }] },
    { name := "Floating", kind := .interfaceType }]

/-- The harbor after a change of what is hidden, and with another declaration of a name. -/
def refittedHarbor : List TypeDecl :=
  [{ name := "Ship", interfaces := ["Floating", "Hull"], members := [
      .method { name := "get_Draft", kind := .propertyGet, returns := some "int" },
      .property { name := "Draft", type := "int", getter := some {} }] },
    { name := "Hull", kind := .structType, base := some "Ship", interfaces := ["Floating"] },
    { name := "Ship", kind := .enumType, enumMembers := ["Sunk"] },
    { name := "Floating", kind := .interfaceType }]

theorem render_hides_harbor :
    Forall₂ (TypeDecl.Alike .publicOnly) (firsts TypeDecl.name (Catalog.types harbor))
        (firsts TypeDecl.name (Catalog.types refittedHarbor)) ∧
      render defaultTheme harbor .publicOnly = render defaultTheme refittedHarbor .publicOnly := by
  have halike : Forall₂ (TypeDecl.Alike .publicOnly)
      (firsts TypeDecl.name (Catalog.types harbor))
      (firsts TypeDecl.name (Catalog.types refittedHarbor)) := by decide
  have hhides := render_hides defaultTheme .publicOnly harbor (firstMatch_list harbor)
  exact ⟨halike, hhides.2 refittedHarbor (firstMatch_list refittedHarbor) halike⟩

end ClassDiagram
