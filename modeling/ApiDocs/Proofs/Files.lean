import ApiDocs.Proofs.Following
import ApiDocs.Proofs.Text.Basic

/-! What becomes of files when directories are made and a file is written. Making directories adds directories and does
    nothing else, however it ends. Whether a file can be written at a path, together with the directories that lead
    there, is decided by the path and by the entries on its way. -/

namespace ApiDocs

/-! ### The way to a place -/

namespace Files

/-- The places of the directories in which names are followed, the first one first. -/
def route (place : Place) : List Text → List Place
  | [] => []
  | name :: rest => place :: route (move place name) rest

theorem route_concat (place : Place) (names : List Text) (name : Text) :
    route place (names ++ [name]) = route place names ++ [names.foldl move place] := by
  induction names generalizing place with
  | nil => rfl
  | cons first rest ih => exact congrArg (place :: ·) (ih (move place first))

end Files

namespace Path

/-- The place that a path leads to. -/
def place (path : Path) : Place := path.parts.foldl Files.move (Files.start path)

/-- The places of the directories that a path leads through. -/
def route (path : Path) : List Place := Files.route (Files.start path) path.parts

/-- The places that a path leads through, and the one that it leads to. -/
def trail (path : Path) : List Place := path.route ++ [path.place]

theorem route_child (path : Path) (name : Text) : (path.child name).route = path.trail :=
  Files.route_concat (Files.start path) path.parts name

/-- A path that files can have: without a character NUL, and not too long. -/
structure Fits (path : Path) : Prop where
  plain : path.parts.any (·.contains '\x00') = false
  names : ∀ part ∈ path.parts, (Text.encode part).length ≤ Files.longestName
  short : (Text.encode path.text).length ≤ Files.longestPath

theorem length_encode_le {s t : Text} (h : s <+: t) : (Text.encode s).length ≤ (Text.encode t).length := by
  obtain ⟨rest, rfl⟩ := h
  simp [Text.encode]

/-- What leads to a path that files can have is such a path itself. -/
theorem Fits.of_child {path : Path} {name : Text} (h : (path.child name).Fits) : path.Fits where
  plain := by
    have hplain := h.plain
    rw [child, List.any_append, Bool.or_eq_false_iff] at hplain
    exact hplain.1
  names part hm := h.names part (List.mem_append_left _ hm)
  short := by
    have hshort := h.short
    rw [text, child, if_neg (by simp)] at hshort
    rw [text]
    split
    · decide
    · have hprefix := (List.prefix_append_right_inj path.root).mpr (Text.prefix_join ['/'] path.parts name)
      exact Nat.le_trans (length_encode_le hprefix) hshort

theorem parent_child (path : Path) (name : Text) : (path.child name).parent = path := by
  rw [parent, child, List.dropLast_concat]

theorem eq_child {path : Path} (h : path.parts ≠ []) : path = path.parent.child (path.parts.getLast h) := by
  rw [child, parent, List.dropLast_concat_getLast h]

end Path

namespace Files

variable {files before after : Files} {place : Place} {path : Path}

/-! ### Entries -/

theorem isBase_eq_false (h : files.entry? place ≠ some .directory) : isBase place = false := by
  rw [Files.entry?] at h
  split at h
  · exact absurd rfl h
  · rename_i hbase
    exact Bool.eq_false_iff.mpr hbase

theorem entry?_put (h : isBase place = false) (entry : Entry) :
    entry? ⟨Ordered.put place entry files.entries⟩ place = some entry := by
  rw [Files.entry?, h, if_neg Bool.false_ne_true]
  exact Ordered.lookup_put _ _ _

theorem entry?_put_of_ne {other : Place} (h : other ≠ place) (entry : Entry) :
    entry? ⟨Ordered.put place entry files.entries⟩ other = files.entry? other := by
  rw [Files.entry?, Files.entry?]
  split
  · rfl
  · exact Ordered.lookup_put_of_ne h _ _

theorem entry?_start (path : Path) : files.entry? (start path) = some .directory := by
  rw [start]
  split <;> rfl

/-- Whether there is a file at a place. -/
def isFile (files : Files) (place : Place) : Bool :=
  match files.entry? place with
  | some (.file _) => true
  | _ => false

theorem isFile_eq_false_of_directory (h : files.entry? place = some .directory) : files.isFile place = false := by
  rw [isFile, h]

theorem entry?_of_not_isFile (h : files.isFile place = false) :
    files.entry? place = none ∨ files.entry? place = some .directory := by
  rw [isFile] at h
  cases he : files.entry? place with
  | none => exact Or.inl rfl
  | some entry =>
    cases entry with
    | directory => exact Or.inr rfl
    | file bytes =>
      rw [he] at h
      cases h

/-! ### Following names -/

/-- Names are followed to their end exactly where each of them stands in a directory. -/
theorem walk_eq_ok_iff {names : List Text} {found : Place} :
    files.walk place names = .ok found ↔
      (∀ q ∈ route place names, files.entry? q = some .directory) ∧
      (∀ name ∈ names, (Text.encode name).length ≤ longestName) ∧ found = names.foldl move place := by
  induction names generalizing place with
  | nil =>
    rw [walk, Except.ok.injEq]
    simp [route, eq_comm]
  | cons name rest ih =>
    rw [walk, route, List.forall_mem_cons, List.forall_mem_cons, List.foldl_cons]
    rcases files.entry? place with _ | bytes | _
    · simp
    · simp
    · simp only
      split
      · rename_i hlong
        have hnot : ¬ (Text.encode name).length ≤ longestName := Nat.not_le.mpr hlong
        simp [hnot]
      · rename_i hshort
        rw [ih]
        simp [Nat.not_lt.mp hshort]

/-- Where no file is in the way, names are followed to their end, or a directory is missing. -/
theorem walk_eq_missing {names : List Text} (hfree : ∀ q ∈ route place names, files.isFile q = false)
    (hnames : ∀ name ∈ names, (Text.encode name).length ≤ longestName)
    (h : ¬ ∀ q ∈ route place names, files.entry? q = some .directory) :
    files.walk place names = .error .fileMissing := by
  induction names generalizing place with
  | nil => exact absurd nofun h
  | cons name rest ih =>
    rw [route, List.forall_mem_cons] at hfree h
    rw [List.forall_mem_cons] at hnames
    rw [walk]
    rcases entry?_of_not_isFile hfree.1 with hnone | hdir
    · rw [hnone]
    · rw [hdir]
      simp only
      rw [if_neg (Nat.not_lt.mpr hnames.1)]
      exact ih hfree.2 hnames.2 fun hrest => h ⟨hdir, hrest⟩

theorem locate_of_fits (h : path.Fits) : files.locate path = files.walk (start path) path.parts := by
  rw [locate, h.plain, if_neg Bool.false_ne_true, if_neg (Nat.not_lt.mpr h.short)]

theorem locate_eq_ok_iff :
    files.locate path = .ok place ↔
      path.Fits ∧ (∀ q ∈ path.route, files.entry? q = some .directory) ∧ place = path.place := by
  constructor
  · intro h
    rw [locate] at h
    split at h
    · cases h
    · rename_i hplain
      split at h
      · cases h
      · rename_i hshort
        obtain ⟨hdirs, hnames, hplace⟩ := walk_eq_ok_iff.mp h
        exact ⟨⟨Bool.eq_false_iff.mpr hplain, hnames, Nat.not_lt.mp hshort⟩, hdirs, hplace⟩
  · rintro ⟨hfits, hdirs, hplace⟩
    rw [locate_of_fits hfits]
    exact walk_eq_ok_iff.mpr ⟨hdirs, hfits.names, hplace⟩

theorem locate_eq_missing (hfits : path.Fits) (hfree : ∀ q ∈ path.route, files.isFile q = false)
    (h : ¬ ∀ q ∈ path.route, files.entry? q = some .directory) : files.locate path = .error .fileMissing := by
  rw [locate_of_fits hfits]
  exact walk_eq_missing hfree hfits.names h

/-! ### New directories -/

/-- What is at a place is as before, or a new directory. -/
def GrownAt (before after : Files) (place : Place) : Prop :=
  after.entry? place = before.entry? place ∨ before.entry? place = none ∧ after.entry? place = some .directory

/-- All is as before, except that there may be new directories. So no file is new or changed. -/
def Grown (before after : Files) : Prop := ∀ place, GrownAt before after place

theorem Grown.refl (files : Files) : Grown files files := fun _ => Or.inl rfl

theorem GrownAt.trans {later : Files} (h : GrownAt before after place) (h' : GrownAt after later place) :
    GrownAt before later place := by
  rcases h' with hsame | ⟨hnone, hdir⟩
  · rw [GrownAt, hsame]
    exact h
  · rcases h with hsame | ⟨-, hother⟩
    · exact Or.inr ⟨hsame ▸ hnone, hdir⟩
    · rw [hother] at hnone
      cases hnone

theorem Grown.put (h : files.entry? place = none) :
    Grown files ⟨Ordered.put place .directory files.entries⟩ := by
  intro other
  by_cases he : other = place
  · subst he
    have hbase : isBase other = false := isBase_eq_false (by rw [h]; exact nofun)
    exact Or.inr ⟨h, entry?_put hbase _⟩
  · exact Or.inl (entry?_put_of_ne he _)

theorem Grown.isFile_eq (h : Grown before after) (place : Place) : after.isFile place = before.isFile place := by
  rw [isFile, isFile]
  rcases h place with hsame | ⟨hnone, hdir⟩
  · rw [hsame]
  · rw [hnone, hdir]

theorem Grown.ne_directory (h : Grown before after) (hd : after.entry? place ≠ some .directory) :
    before.entry? place ≠ some .directory := by
  rcases h place with hsame | ⟨hnone, -⟩
  · rwa [← hsame]
  · rw [hnone]
    exact nofun

theorem makeDirectory_grown {made : Files} (h : files.makeDirectory path = .ok made) : Grown files made := by
  obtain ⟨place, -, h⟩ := bind_eq_ok.mp h
  split at h
  · cases h
  · rename_i hnone
    cases h
    exact Grown.put hnone

/-- There are directories all the way to a path, and nothing else is new. -/
structure Opened (before : Files) (path : Path) (after : Files) : Prop where
  on : ∀ q ∈ path.trail, after.entry? q = some .directory
  off : ∀ q ∉ path.trail, after.entry? q = before.entry? q

theorem Opened.grown (h : before.Opened path after) (hfree : ∀ q ∈ path.trail, before.isFile q = false) :
    Grown before after := by
  intro q
  by_cases hq : q ∈ path.trail
  · rcases entry?_of_not_isFile (hfree q hq) with hnone | hdir
    · exact Or.inr ⟨hnone, h.on q hq⟩
    · exact Or.inl ((h.on q hq).trans hdir.symm)
  · exact Or.inl (h.off q hq)

theorem Opened.child {name : Text} {later : Files} (h : before.Opened path after)
    (h' : after.Opened (path.child name) later) : before.Opened (path.child name) later where
  on := h'.on
  off q hq := by
    have hout : q ∉ path.trail := fun hm => hq (List.mem_append_left _ (path.route_child name ▸ hm))
    rw [h'.off q hq, h.off q hout]

theorem opened_put (hdirs : ∀ q ∈ path.route, files.entry? q = some .directory)
    (hnone : files.entry? path.place = none) :
    files.Opened path ⟨Ordered.put path.place .directory files.entries⟩ where
  on q hq := by
    by_cases he : q = path.place
    · subst he
      exact entry?_put (isBase_eq_false (by rw [hnone]; exact nofun)) _
    · rw [entry?_put_of_ne he]
      rcases List.mem_append.mp hq with hq | hq
      · exact hdirs q hq
      · exact absurd (List.mem_singleton.mp hq) he
  off q hq := by
    refine entry?_put_of_ne ?_ _
    rintro rfl
    exact hq (List.mem_append_right _ List.mem_cons_self)

/-! ### New files -/

/-- A file can be written at a path once the directories that lead there are made: none of them is a file, the place of
    the file is no directory, and does not become one when those are made. -/
structure CanHold (files : Files) (path : Path) : Prop where
  fits : path.Fits
  passable : ∀ q ∈ path.route, files.isFile q = false
  vacant : files.entry? path.place ≠ some .directory
  apart : path.place ∉ path.route

/-- A file is always in a directory. -/
theorem CanHold.exists_child (h : files.CanHold path) : ∃ directory name, path = Path.child directory name := by
  refine ⟨path.parent, _, Path.eq_child fun hnil => h.vacant ?_⟩
  rw [Path.place, hnil]
  exact entry?_start path

/-- A file has become what it is now, and everywhere else at most directories are new. -/
structure Gains (before : Files) (path : Path) (bytes : List UInt8) (after : Files) : Prop where
  read : after.read path = .ok bytes
  others : ∀ place, place ≠ path.place → GrownAt before after place

theorem write_eq_ok_iff {bytes : List UInt8} {written : Files} :
    files.write path bytes = .ok written ↔
      path.Fits ∧ (∀ q ∈ path.route, files.entry? q = some .directory) ∧
      files.entry? path.place ≠ some .directory ∧ written = ⟨Ordered.put path.place (.file bytes) files.entries⟩ := by
  rw [write, bind_eq_ok]
  constructor
  · rintro ⟨place, hplace, h⟩
    obtain ⟨hfits, hdirs, rfl⟩ := locate_eq_ok_iff.mp hplace
    split at h
    · cases h
    · rename_i hdir
      cases h
      exact ⟨hfits, hdirs, hdir, rfl⟩
  · rintro ⟨hfits, hdirs, hdir, rfl⟩
    refine ⟨path.place, locate_eq_ok_iff.mpr ⟨hfits, hdirs, rfl⟩, ?_⟩
    split
    · rename_i h
      exact absurd h hdir
    · rfl

/-- Where a file can be written once directories are made, it could be written from the beginning. -/
theorem Grown.canHold {bytes : List UInt8} {written : Files} (h : Grown before after)
    (hw : after.write path bytes = .ok written) : before.CanHold path := by
  obtain ⟨hfits, hdirs, hdir, -⟩ := write_eq_ok_iff.mp hw
  exact {
    fits := hfits
    passable := fun q hq => h.isFile_eq q ▸ isFile_eq_false_of_directory (hdirs q hq)
    vacant := h.ne_directory hdir
    apart := fun hq => hdir (hdirs _ hq) }

theorem Grown.gains_put {bytes : List UInt8} (h : Grown before after) (hfits : path.Fits)
    (hdirs : ∀ q ∈ path.route, after.entry? q = some .directory) (hdir : after.entry? path.place ≠ some .directory) :
    before.Gains path bytes ⟨Ordered.put path.place (.file bytes) after.entries⟩ where
  read := by
    have hlocate : locate ⟨Ordered.put path.place (.file bytes) after.entries⟩ path = .ok path.place := by
      refine locate_eq_ok_iff.mpr ⟨hfits, fun q hq => ?_, rfl⟩
      have hne : q ≠ path.place := by
        rintro rfl
        exact hdir (hdirs _ hq)
      rw [entry?_put_of_ne hne]
      exact hdirs q hq
    refine bind_eq_ok.mpr ⟨path.place, hlocate, ?_⟩
    rw [entry?_put (isBase_eq_false hdir)]
    rfl
  others other hne := by
    rw [GrownAt, entry?_put_of_ne hne]
    exact h other

end Files

namespace Act

variable {s t : Session} {path : Path}

theorem outcome_changeFiles (change : Files → Except Fault Files) (s : Session) :
    (changeFiles change).outcome s =
      match change s.files with
      | .ok files => (.ok (), { s with files })
      | .error fault => (.error fault, s) := by
  have hget : (get : Act Session).outcome s = (.ok s, s) := rfl
  rw [changeFiles, outcome_bind, hget]
  simp only
  rw [outcome_bind, outcome_ofExcept]
  cases change s.files <;> rfl

theorem outcome_makeDirectory (path : Path) (s : Session) :
    (makeDirectory path).outcome s =
      match s.files.makeDirectory path with
      | .ok files => (.ok (), { s with files })
      | .error fault =>
        match s.files.found? path with
        | .ok found => (if found = some .directory then .ok () else .error fault, s)
        | .error fault => (.error fault, s) := by
  rw [makeDirectory, outcome_tryCatch, outcome_changeFiles]
  cases s.files.makeDirectory path with
  | ok files => rfl
  | error fault =>
    have hget : (get : Act Session).outcome s = (.ok s, s) := rfl
    simp only
    rw [outcome_bind, hget]
    simp only
    rw [outcome_bind, outcome_ofExcept]
    cases s.files.found? path with
    | error fault => rfl
    | ok found =>
      simp only
      split <;> rfl

theorem makeDirectory_grown (files : Files) (path : Path) :
    Keeps (fun s => files.Grown s.files) (makeDirectory path) := by
  intro s hs
  rw [outcome_makeDirectory]
  cases hmade : s.files.makeDirectory path with
  | ok made => exact fun place => (hs place).trans (Files.makeDirectory_grown hmade place)
  | error fault =>
    simp only
    cases s.files.found? path with
    | ok found => exact hs
    | error fault => exact hs

/-- However the making of directories ends, it leaves all files as they are. -/
theorem makeDirectories_grown (files : Files) (root : Text) (parts : List Text) :
    Keeps (fun s => files.Grown s.files) (makeDirectories root parts) := by
  induction parts with
  | nil => exact makeDirectory_grown files _
  | cons part outer ih =>
    refine (makeDirectory_grown files _).tryCatch fun fault => ?_
    split
    · exact ih.bind fun _ => makeDirectory_grown files _
    · exact keeps_ofExcept (.error _)

theorem makeDirectory_missing (hfits : path.Fits) (hfree : ∀ q ∈ path.route, s.files.isFile q = false)
    (h : ¬ ∀ q ∈ path.route, s.files.entry? q = some .directory) :
    (makeDirectory path).outcome s = (.error .fileMissing, s) := by
  have hlocate := Files.locate_eq_missing hfits hfree h
  have hmake : s.files.makeDirectory path = .error .fileMissing := by
    rw [Files.makeDirectory, hlocate]
    rfl
  have hfound : s.files.found? path = .ok none := by rw [Files.found?, hlocate]
  rw [outcome_makeDirectory, hmake, hfound]
  rfl

theorem makeDirectory_opens (hfits : path.Fits) (hdirs : ∀ q ∈ path.route, s.files.entry? q = some .directory)
    (hfree : s.files.isFile path.place = false) :
    ∃ files, (makeDirectory path).outcome s = (.ok (), { s with files }) ∧ s.files.Opened path files := by
  have hlocate := Files.locate_eq_ok_iff.mpr ⟨hfits, hdirs, rfl⟩
  rcases Files.entry?_of_not_isFile hfree with hnone | hdir
  · refine ⟨_, ?_, Files.opened_put hdirs hnone⟩
    have hmake : s.files.makeDirectory path = .ok ⟨Ordered.put path.place .directory s.files.entries⟩ := by
      refine bind_eq_ok.mpr ⟨path.place, hlocate, ?_⟩
      rw [hnone]
      rfl
    rw [outcome_makeDirectory, hmake]
  · refine ⟨s.files, ?_, ⟨fun q hq => ?_, fun _ _ => rfl⟩⟩
    · have hmake : s.files.makeDirectory path = .error .fileExists := by
        simp only [Files.makeDirectory, hlocate, bind, Except.bind, hdir]
        rfl
      have hfound : s.files.found? path = .ok (some .directory) := by
        rw [Files.found?, hlocate]
        simp only
        rw [hdir]
      rw [outcome_makeDirectory, hmake, hfound]
      rfl
    · rcases List.mem_append.mp hq with hq | hq
      · exact hdirs q hq
      · rw [List.mem_singleton.mp hq]
        exact hdir

/-- Where no file is in the way, all directories on it are made. -/
theorem makeDirectories_opens (root : Text) (parts : List Text) (s : Session)
    (hfits : Path.Fits ⟨root, parts.reverse⟩)
    (hfree : ∀ q ∈ Path.trail ⟨root, parts.reverse⟩, s.files.isFile q = false) :
    ∃ files, (makeDirectories root parts).outcome s = (.ok (), { s with files }) ∧
      s.files.Opened ⟨root, parts.reverse⟩ files := by
  induction parts with
  | nil => exact makeDirectory_opens hfits nofun (hfree _ List.mem_cons_self)
  | cons part outer ih =>
    have hchild : (⟨root, (part :: outer).reverse⟩ : Path) = Path.child ⟨root, outer.reverse⟩ part := by
      rw [Path.child, List.reverse_cons]
    rw [makeDirectories]
    rw [hchild] at hfits hfree ⊢
    have hroute := fun q hq => hfree q (List.mem_append_left _ hq)
    have hplace := hfree _ (List.mem_append_right _ List.mem_cons_self)
    by_cases hdirs : ∀ q ∈ (Path.child ⟨root, outer.reverse⟩ part).route, s.files.entry? q = some .directory
    · obtain ⟨files, hmade, hopened⟩ := makeDirectory_opens hfits hdirs hplace
      exact ⟨files, by rw [outcome_tryCatch, hmade], hopened⟩
    · -- The directories further out come first, and then there is nothing left that could be missing.
      rw [outcome_tryCatch, makeDirectory_missing hfits hroute hdirs]
      rw [Path.route_child] at hroute
      obtain ⟨outward, houter, hopened⟩ := ih hfits.of_child hroute
      simp only
      rw [outcome_bind, houter]
      simp only
      have hdirs' : ∀ q ∈ (Path.child ⟨root, outer.reverse⟩ part).route, outward.entry? q = some .directory := by
        rw [Path.route_child]
        exact hopened.on
      have hplace' := ((hopened.grown hroute).isFile_eq _).trans hplace
      obtain ⟨files, hmade, hlast⟩ := makeDirectory_opens (s := { s with files := outward }) hfits hdirs' hplace'
      exact ⟨files, hmade, hopened.child hlast⟩

end Act
end ApiDocs
