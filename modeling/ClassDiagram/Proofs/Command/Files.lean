import ClassDiagram.Command.Files
import Mathlib.Data.List.Infix

/-! # Reading and writing one file

A path reaches the place of a file, whether there is one or not, if the names on the way are those
of directories and the last one is not (`Files.Reaches`).  The content of the file that is there can
be read (`Files.read_eq_ok`).  If the place is written, then the file there receives the content,
and nothing else changes: neither another file nor what is a directory (`Files.Receives`,
`Files.Reaches.write_eq`). -/

namespace ClassDiagram

/-- A computation succeeds if both of its parts do. -/
theorem Except.bind_eq_ok {ε α β : Type} {x : Except ε α} {f : α → Except ε β} {b : β} :
    x >>= f = .ok b ↔ ∃ a, x = .ok a ∧ f a = .ok b := by
  cases x with
  | error e => exact ⟨nofun, fun ⟨_, ha, _⟩ => nomatch ha⟩
  | ok a =>
      constructor
      · intro h
        exact ⟨a, rfl, h⟩
      · rintro ⟨_, ⟨⟩, h⟩
        exact h

namespace Files

variable {fs : Files} {p : Path}

/-! ### Contents -/

theorem lookup_filter_ne {place other : Place} (hne : other ≠ place)
    (contents : List (Place × List UInt8)) :
    (contents.filter fun (file, _) => file != place).lookup other = contents.lookup other := by
  induction contents with
  | nil => rfl
  | cons entry contents ih =>
      obtain ⟨file, content⟩ := entry
      by_cases hfile : file = place
      · have hother : (other == file) = false := by simpa [hfile] using hne
        rw [List.filter_cons_of_neg (by simp [hfile]), List.lookup_cons, hother, ih]
      · rw [List.filter_cons_of_pos (by simp [hfile]), List.lookup_cons, List.lookup_cons, ih]

theorem get?_put_self (fs : Files) (place : Place) (content : List UInt8) :
    (fs.put place content).get? place = some content :=
  List.lookup_cons_self

theorem get?_put_of_ne (fs : Files) {place other : Place} (hne : other ≠ place)
    (content : List UInt8) : (fs.put place content).get? other = fs.get? other := by
  have hother : (other == place) = false := beq_eq_false_iff_ne.mpr hne
  rw [get?, put, List.lookup_cons, hother]
  exact lookup_filter_ne hne fs.contents

/-! ### Directories -/

/-- What leads to a directory is a directory. -/
theorem isDirectory_of_isPrefix {place other : Place} (h : fs.isDirectory place = true)
    (hbegins : other <+: place) : fs.isDirectory other = true := by
  simp only [isDirectory, Bool.or_eq_true, List.any_eq_true, Bool.and_eq_true, bne_iff_ne,
    List.isPrefixOf_iff_prefix] at h ⊢
  rcases h with (hhome | ⟨directory, hmem, hdirectory⟩) | ⟨⟨file, content⟩, hmem, hfile, hne⟩
  · exact .inl (.inl (hbegins.trans hhome))
  · exact .inl (.inr ⟨directory, hmem, hbegins.trans hdirectory⟩)
  · refine .inr ⟨⟨file, content⟩, hmem, hbegins.trans hfile, ?_⟩
    rintro rfl
    exact hne (hfile.eq_of_length_le hbegins.length_le)

/-- A new file in a directory that is there makes no new directory. -/
theorem isDirectory_put {place : Place} {name : String} (h : fs.isDirectory place = true)
    (content : List UInt8) (other : Place) :
    (fs.put (place ++ [name]) content).isDirectory other = fs.isDirectory other := by
  rw [Bool.eq_iff_iff]
  constructor
  · intro hother
    by_cases hparent : other <+: place
    · exact isDirectory_of_isPrefix h hparent
    · simp only [isDirectory, put, Bool.or_eq_true, List.any_eq_true, Bool.and_eq_true, bne_iff_ne,
        List.isPrefixOf_iff_prefix, List.mem_cons, List.mem_filter] at hother ⊢
      rcases hother with hother | ⟨entry, rfl | ⟨hmem, -⟩, hfile, hne⟩
      · exact .inl hother
      · rcases List.prefix_concat_iff.mp hfile with hself | hinside
        · exact absurd hself hne
        · exact absurd hinside hparent
      · exact .inr ⟨entry, hmem, hfile, hne⟩
  · intro hother
    simp only [isDirectory, put, Bool.or_eq_true, List.any_eq_true, Bool.and_eq_true, bne_iff_ne,
      List.isPrefixOf_iff_prefix, List.mem_cons, List.mem_filter] at hother ⊢
    rcases hother with hother | ⟨entry, hmem, hfile, hne⟩
    · exact .inl hother
    · by_cases hentry : entry.1 = place ++ [name]
      · exact .inr ⟨(place ++ [name], content), .inl rfl, hentry ▸ hfile, hentry ▸ hne⟩
      · exact .inr ⟨entry, .inr ⟨hmem, hentry⟩, hfile, hne⟩

/-! ### Paths -/

theorem enter_eq_ok {place next : Place} {part : String} :
    fs.enter place part = .ok next ↔
      next = place.step part ∧ (Text.bytes part).length ≤ nameLimit ∧
        fs.isDirectory (place.step part) = true := by
  simp only [enter]
  split
  · rename_i hlong
    exact ⟨nofun, fun h => absurd h.2.1 (by omega)⟩
  · rename_i hshort
    split
    · rename_i hdirectory
      constructor
      · rintro ⟨⟩
        exact ⟨rfl, by omega, hdirectory⟩
      · rintro ⟨rfl, -, -⟩
        rfl
    · rename_i hdirectory
      refine ⟨?_, fun h => absurd h.2.2 hdirectory⟩
      split
      · exact nofun
      · exact nofun

/-- Parts can be followed if none is too long and they lead from one directory to the next. -/
theorem foldlM_enter {start place : Place} {parts : List String}
    (hstart : fs.isDirectory start = true) :
    parts.foldlM fs.enter start = .ok place ↔
      place = parts.foldl Place.step start ∧
        (∀ part ∈ parts, (Text.bytes part).length ≤ nameLimit) ∧
        ∀ before, before <+: parts → fs.isDirectory (before.foldl Place.step start) = true := by
  induction parts generalizing start with
  | nil =>
      constructor
      · rintro ⟨⟩
        refine ⟨rfl, nofun, fun before hbefore => ?_⟩
        rwa [List.prefix_nil.mp hbefore]
      · rintro ⟨rfl, -, -⟩
        rfl
  | cons part parts ih =>
      rw [List.foldlM_cons, Except.bind_eq_ok]
      constructor
      · rintro ⟨next, henter, hrest⟩
        obtain ⟨rfl, hpart, hnext⟩ := enter_eq_ok.mp henter
        obtain ⟨rfl, hparts, hbefore⟩ := (ih hnext).mp hrest
        refine ⟨rfl, List.forall_mem_cons.mpr ⟨hpart, hparts⟩, fun before h => ?_⟩
        rcases List.prefix_cons_iff.mp h with rfl | ⟨before, rfl, h⟩
        · exact hstart
        · exact hbefore before ((List.prefix_cons_inj part).mp h)
      · rintro ⟨rfl, hparts, hbefore⟩
        obtain ⟨hpart, hparts⟩ := List.forall_mem_cons.mp hparts
        have hnext := hbefore [part] (List.prefix_append [part] parts)
        refine ⟨_, enter_eq_ok.mpr ⟨rfl, hpart, hnext⟩, (ih hnext).mpr ⟨rfl, hparts, ?_⟩⟩
        intro before h
        exact hbefore (part :: before) ((List.prefix_cons_inj part).mpr h)

theorem isDirectory_start (fs : Files) (p : Path) : fs.isDirectory (p.start fs.home) = true := by
  have hhome : fs.isDirectory fs.home = true := by simp [isDirectory]
  unfold Path.start
  split
  · exact isDirectory_of_isPrefix hhome List.nil_prefix
  · exact hhome

/-- A path is followed up to its last part. -/
theorem follow_eq_ok {place : Place} {last : Option String} :
    fs.follow p = .ok (place, last) ↔
      p.size ≠ 0 ∧ p.size ≤ pathLimit ∧
        p.parts.dropLast.foldlM fs.enter (p.start fs.home) = .ok place ∧
        last = p.parts.getLast? := by
  unfold follow
  split
  · rename_i hsize
    exact ⟨nofun, fun h => absurd hsize h.1⟩
  · rename_i hsize
    split
    · rename_i hlong
      exact ⟨nofun, fun h => absurd h.2.1 (by omega)⟩
    · rename_i hshort
      rw [Except.bind_eq_ok]
      constructor
      · rintro ⟨place', hfold, hlast⟩
        cases hlast
        exact ⟨hsize, by omega, hfold, rfl⟩
      · rintro ⟨-, -, hfold, rfl⟩
        exact ⟨place, hfold, rfl⟩

/-- The last part of a path is followed from where the others lead. -/
theorem place_eq_step {place : Place} {part : String}
    (h : fs.follow p = .ok (place, some part)) : p.place fs.home = place.step part := by
  obtain ⟨-, -, hfold, hlast⟩ := follow_eq_ok.mp h
  obtain ⟨rfl, -, -⟩ := (foldlM_enter (fs.isDirectory_start p)).mp hfold
  have hparts : p.parts = p.parts.dropLast ++ [part] :=
    (List.dropLast_append_getLast? part hlast.symm).symm
  conv_lhs => rw [Path.place, hparts, List.foldl_concat]

/-- A step from one directory to something that is no directory is a step to a name in it. -/
theorem step_eq_concat {place : Place} {part : String} (hplace : fs.isDirectory place = true)
    (hnext : fs.isDirectory (place.step part) = false) : place.step part = place ++ [part] := by
  unfold Place.step at hnext ⊢
  split at hnext
  · rw [hplace] at hnext
    cases hnext
  · split at hnext
    · have habove : place.dropLast <+: place := List.dropLast_prefix place
      rw [isDirectory_of_isPrefix hplace habove] at hnext
      cases hnext
    · rename_i hdot hdots
      rw [if_neg hdot, if_neg hdots]

/-! ### The place of a file -/

/-- The path reaches the place of a file, whether there is one or not: neither the path nor a name
in it is too long, each name but the last leads to a directory, and the last one does not. -/
structure Reaches (fs : Files) (p : Path) : Prop where
  size_ne : p.size ≠ 0
  size_le : p.size ≤ pathLimit
  parts_ne : p.parts ≠ []
  names_le : ∀ part ∈ p.parts, (Text.bytes part).length ≤ nameLimit
  through : ∀ before, before <+: p.parts → before ≠ p.parts →
    fs.isDirectory (before.foldl Place.step (p.start fs.home)) = true
  no_slash : p.ofDirectory = false
  no_directory : fs.isDirectory (p.place fs.home) = false

/-- The file at a place has got a new content, and everything else is as before. -/
structure Receives (fs : Files) (place : Place) (content : List UInt8) (fs' : Files) : Prop where
  content_eq : fs'.get? place = some content
  others_eq : ∀ other, other ≠ place → fs'.get? other = fs.get? other
  isDirectory_eq : ∀ other, fs'.isDirectory other = fs.isDirectory other
  home_eq : fs'.home = fs.home

/-- A path reaches the place of a file if it can be followed to a directory and goes on with a name
that is not too long and not that of a directory. -/
theorem reaches_iff :
    fs.Reaches p ↔ ∃ place part, fs.follow p = .ok (place, some part) ∧ p.ofDirectory = false ∧
      (Text.bytes part).length ≤ nameLimit ∧ fs.isDirectory (place.step part) = false ∧
      p.place fs.home = place.step part := by
  have hstart := fs.isDirectory_start p
  have hplace : ∀ {parts : List String} {part : String}, p.parts = parts ++ [part] →
      p.place fs.home = (parts.foldl Place.step (p.start fs.home)).step part := by
    intro parts part hparts
    rw [Path.place, hparts, List.foldl_concat]
  constructor
  · intro h
    obtain ⟨parts, part, hparts⟩ : ∃ parts part, p.parts = parts ++ [part] :=
      ⟨_, _, (List.dropLast_append_getLast h.parts_ne).symm⟩
    have hnames := h.names_le
    have hlast := h.no_directory
    rw [hplace hparts] at hlast
    rw [hparts] at hnames
    refine ⟨_, part, follow_eq_ok.mpr ⟨h.size_ne, h.size_le, ?_, ?_⟩, h.no_slash,
      hnames part (by simp), hlast, hplace hparts⟩
    · rw [hparts, List.dropLast_concat]
      refine (foldlM_enter hstart).mpr ⟨rfl, fun name hname => hnames name (by simp [hname]), ?_⟩
      intro before hbefore
      refine h.through before ?_ ?_
      · rw [hparts]
        exact hbefore.trans (List.prefix_append parts [part])
      · rintro rfl
        have hlength := hbefore.length_le
        rw [hparts, List.length_append, List.length_singleton] at hlength
        omega
    · rw [hparts, List.getLast?_concat]
  · rintro ⟨place, part, hfollow, hslash, hpart, hdirectory, -⟩
    obtain ⟨hsize, hlimit, hfold, hlast⟩ := follow_eq_ok.mp hfollow
    obtain ⟨rfl, hnames, hbefore⟩ := (foldlM_enter hstart).mp hfold
    have hparts : p.parts = p.parts.dropLast ++ [part] :=
      (List.dropLast_append_getLast? part hlast.symm).symm
    exact {
      size_ne := hsize
      size_le := hlimit
      parts_ne := by
        intro hempty
        rw [hempty] at hlast
        cases hlast
      names_le := by
        intro name hname
        rw [hparts, List.mem_append, List.mem_singleton] at hname
        rcases hname with hname | rfl
        · exact hnames name hname
        · exact hpart
      through := by
        intro before hprefix hne
        rw [hparts] at hprefix hne
        exact hbefore before ((List.prefix_concat_iff.mp hprefix).resolve_left hne)
      no_slash := hslash
      no_directory := by rwa [hplace hparts] }

/-- The content of the file that a path reaches can be read, and no other. -/
theorem read_eq_ok {content : List UInt8} :
    fs.read p = .ok content ↔ fs.Reaches p ∧ fs.get? (p.place fs.home) = some content := by
  rw [reaches_iff, read, Except.bind_eq_ok]
  constructor
  · rintro ⟨⟨place, last⟩, hfollow, hrest⟩
    cases last with
    | none => cases hrest
    | some part =>
        have hplace := place_eq_step hfollow
        simp only at hrest
        split at hrest
        · cases hrest
        · split at hrest
          · cases hrest
          · rename_i hshort hnext
            split at hrest
            · rename_i content' hcontent
              split at hrest
              · cases hrest
              · rename_i hslash
                cases hrest
                refine ⟨⟨place, part, hfollow, by simpa using hslash, by omega,
                  by simpa using hnext, hplace⟩, ?_⟩
                rw [hplace, hcontent]
            · cases hrest
  · rintro ⟨⟨place, part, hfollow, hslash, hshort, hnext, hplace⟩, hcontent⟩
    refine ⟨_, hfollow, ?_⟩
    rw [hplace] at hcontent
    simp only [hcontent, hslash, hnext, if_neg (Nat.not_lt.mpr hshort), Bool.false_eq_true,
      if_false]
    rfl

/-- Just the place that a path reaches can be written, and any content can. -/
theorem write_eq_ok {content : List UInt8} {fs' : Files} :
    fs.write p content = .ok fs' ↔ fs.Reaches p ∧ fs' = fs.put (p.place fs.home) content := by
  rw [reaches_iff, write, Except.bind_eq_ok]
  constructor
  · rintro ⟨⟨place, last⟩, hfollow, hrest⟩
    cases last with
    | none => cases hrest
    | some part =>
        have hplace := place_eq_step hfollow
        simp only at hrest
        split at hrest
        · cases hrest
        · split at hrest
          · cases hrest
          · split at hrest
            · cases hrest
            · rename_i hslash hshort hnext
              cases hrest
              refine ⟨⟨place, part, hfollow, by simpa using hslash, by omega, by simpa using hnext,
                hplace⟩, ?_⟩
              rw [hplace]
  · rintro ⟨⟨place, part, hfollow, hslash, hshort, hnext, hplace⟩, rfl⟩
    refine ⟨_, hfollow, ?_⟩
    simp only [hslash, hnext, if_neg (Nat.not_lt.mpr hshort), Bool.false_eq_true, if_false, hplace]
    rfl

/-- The place of a file is a name in a directory. -/
theorem Reaches.exists_directory (h : fs.Reaches p) :
    ∃ directory name, fs.isDirectory directory = true ∧
      p.place fs.home = directory ++ [name] := by
  obtain ⟨place, part, hfollow, -, -, hnext, hplace⟩ := reaches_iff.mp h
  obtain ⟨-, -, hfold, -⟩ := follow_eq_ok.mp hfollow
  obtain ⟨rfl, -, hbefore⟩ := (foldlM_enter (fs.isDirectory_start p)).mp hfold
  have hdirectory := hbefore _ (List.prefix_refl _)
  exact ⟨_, part, hdirectory, hplace.trans (step_eq_concat hdirectory hnext)⟩

/-- What is written is received, and nothing else changes. -/
theorem Reaches.write_eq (h : fs.Reaches p) (content : List UInt8) :
    ∃ fs', fs.write p content = .ok fs' ∧ fs.Receives (p.place fs.home) content fs' := by
  obtain ⟨directory, name, hdirectory, hplace⟩ := h.exists_directory
  refine ⟨_, write_eq_ok.mpr ⟨h, rfl⟩, ?_⟩
  exact {
    content_eq := get?_put_self fs _ content
    others_eq := fun other hne => get?_put_of_ne fs hne content
    isDirectory_eq := fun other => hplace ▸ isDirectory_put hdirectory content other
    home_eq := rfl }

theorem write_eq_error (h : ¬ fs.Reaches p) (content : List UInt8) :
    ∃ e, fs.write p content = .error e := by
  cases hwrite : fs.write p content with
  | error e => exact ⟨e, rfl⟩
  | ok fs' => exact absurd (write_eq_ok.mp hwrite).1 h

end Files

end ClassDiagram
