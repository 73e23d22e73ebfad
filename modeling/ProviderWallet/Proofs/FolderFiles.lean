import ProviderWallet.Storage.Files

namespace ProviderWallet

section

variable {κ ν : Type} [BEq κ] [LawfulBEq κ] [DecidableEq κ] {k l : κ}

theorem lookup_filter_self (entries : List (κ × ν)) :
    (entries.filter (·.1 ≠ k)).lookup k = none := by
  rw [List.lookup_eq_none_iff]
  intro entry among
  have differ : entry.1 ≠ k := by simpa using (List.mem_filter.mp among).2
  exact bne_iff_ne.mpr differ.symm

/-- Taking away what has one key leaves what has another. -/
theorem lookup_filter_ne (h : l ≠ k) (entries : List (κ × ν)) :
    (entries.filter (·.1 ≠ k)).lookup l = entries.lookup l := by
  induction entries with
  | nil => rfl
  | cons entry entries ih =>
    obtain ⟨m, v⟩ := entry
    by_cases gone : m = k
    · subst gone
      rw [List.filter_cons_of_neg (by simp), ih, List.lookup_cons, beq_false_of_ne h]
    · rw [List.filter_cons_of_pos (by simpa using gone), List.lookup_cons, List.lookup_cons, ih]

/-- Where nothing has a key nothing is taken away. -/
theorem filter_of_lookup {entries : List (κ × ν)} (h : entries.lookup k = none) :
    entries.filter (·.1 ≠ k) = entries := by
  rw [List.filter_eq_self]
  intro entry among
  have differ : k ≠ entry.1 := bne_iff_ne.mp (List.lookup_eq_none_iff.mp h entry among)
  simpa using differ.symm

omit [DecidableEq κ] in
theorem mem_of_lookup {entries : List (κ × ν)} {v : ν} (h : entries.lookup k = some v) :
    (k, v) ∈ entries := by
  obtain ⟨before, after, rfl, -⟩ := List.lookup_eq_some_iff.mp h
  simp

end

namespace Storage

namespace Path

theorem pieces_ne_nil (cs : List Char) : pieces cs ≠ [] := by
  cases cs with
  | nil => simp [pieces]
  | cons c cs =>
    rw [pieces]
    split
    · simp
    · split <;> simp

theorem pieces_append_slash (cs ds : List Char) :
    pieces (cs ++ '/' :: ds) = pieces cs ++ pieces ds := by
  induction cs with
  | nil => rfl
  | cons c cs ih =>
    rw [List.cons_append, pieces, pieces, ih]
    split
    · rfl
    · obtain ⟨p, ps, shown⟩ := List.exists_cons_of_ne_nil (pieces_ne_nil cs)
      rw [shown]
      rfl

theorem pieces_of_no_slash {cs : List Char} (h : '/' ∉ cs) : pieces cs = [cs] := by
  induction cs with
  | nil => rfl
  | cons c cs ih =>
    have other : c ≠ '/' := fun same => h (same ▸ List.mem_cons_self)
    rw [pieces, if_neg other, ih fun among => h (List.mem_cons_of_mem _ among)]

/-- A text that is one name, and neither of the names that stand for folders around it. -/
structure IsName (name : String) : Prop where
  no_slash : '/' ∉ name.toList
  no_zero : '\x00' ∉ name.toList
  nonempty : name ≠ ""
  not_dots : name ≠ "." ∧ name ≠ ".."

theorem IsName.stepOf {name : String} (h : IsName name) :
    stepOf name.toList = .down name := by
  obtain ⟨-, -, nonempty, dot, dots⟩ := h
  have h1 : name.toList ≠ [] := by simpa using nonempty
  have h2 : name.toList ≠ ['.'] := fun same => dot (String.toList_inj.mp same)
  have h3 : name.toList ≠ ['.', '.'] := fun same => dots (String.toList_inj.mp same)
  rw [Path.stepOf, if_neg (by simp [h1, h2]), if_neg h3, String.ofList_toList]

theorem IsName.not_absolute {name : String} (h : IsName name) : isAbsolute name = false := by
  rw [isAbsolute, decide_eq_false_iff_not]
  intro start
  exact h.no_slash (List.mem_of_head? start)

theorem IsName.ofText {name : String} (h : IsName name) : ofText name = ⟨false, [.down name]⟩ := by
  rw [Path.ofText, h.not_absolute, pieces_of_no_slash h.no_slash, List.map_singleton, h.stepOf]

/-- After a slash a name is one more step. -/
theorem steps_of_slash (text : String) (front : List Char) {name : String} (h : IsName name)
    (shown : text.toList = front ++ '/' :: name.toList) :
    (ofText text).steps = (pieces front).map stepOf ++ [.down name] := by
  have last : (pieces name.toList).map stepOf = [.down name] := by
    rw [pieces_of_no_slash h.no_slash, List.map_singleton, h.stepOf]
  rw [ofText, shown, pieces_append_slash, List.map_append, last]

/-- A path inside a folder has one more step than that of the folder; a slash at the end of this is
a step that stays. -/
theorem ofText_join (path : String) {name : String} (h : IsName name) : ∃ absolute steps,
    ofText (join path name) = ⟨absolute, steps ++ [.down name]⟩ ∧
      (ofText path = ⟨absolute, steps⟩ ∨ ofText path = ⟨absolute, steps ++ [.stay]⟩) := by
  by_cases nonempty : path = ""
  · subst nonempty
    refine ⟨false, [], ?_, .inr rfl⟩
    rw [join, if_neg (by rw [h.not_absolute]; simp), if_pos (.inr rfl), String.empty_append]
    exact h.ofText
  have absolute (rest : String) : isAbsolute (path ++ rest) = isAbsolute path := by
    obtain ⟨c, cs, shown⟩ := List.exists_cons_of_ne_nil (l := path.toList) (by simpa using nonempty)
    rw [isAbsolute, isAbsolute, String.toList_append, shown]
    rfl
  rw [join, if_neg (by rw [h.not_absolute]; simp)]
  by_cases slash : path.toList.getLast? = some '/'
  · rw [if_pos (.inl slash)]
    obtain ⟨front, shown⟩ := List.getLast?_eq_some_iff.mp slash
    have joined := steps_of_slash (path ++ name) front h (by simp [shown])
    have stays : (ofText path).steps = (pieces front).map stepOf ++ [.stay] := by
      rw [ofText, shown, pieces_append_slash, List.map_append]
      rfl
    refine ⟨isAbsolute path, (pieces front).map stepOf, ?_, .inr ?_⟩
    · rw [← joined, ← absolute name]
      rfl
    · rw [← stays]
      rfl
  · rw [if_neg (by simp [slash, nonempty]), String.append_assoc]
    have joined := steps_of_slash (path ++ ("/" ++ name)) path.toList h (by simp)
    refine ⟨isAbsolute path, (pieces path.toList).map stepOf, ?_, .inl rfl⟩
    rw [← joined, ← absolute ("/" ++ name)]
    rfl

end Path

namespace Files

open ProviderWallet.Storage.Path (IsName)

structure KeepsFolders (files files' : Files) : Prop where
  folder : ∀ place mode, files.entryAt? place = some (.folder mode) →
    files'.entryAt? place = some (.folder mode)
  working : files'.working = files.working

/-- A step starts in a folder. -/
theorem folder_of_step {files : Files} {place next : Place} {s : Step}
    (goes : files.step place s = .ok next) :
    ∃ mode, files.entryAt? place = some (.folder mode) := by
  unfold step at goes
  cases there : files.entryAt? place with
  | none =>
    rw [there] at goes
    cases goes
  | some entry =>
    cases entry with
    | file _ _ =>
      rw [there] at goes
      cases goes
    | folder mode => exact ⟨mode, rfl⟩

/-- Which step it is decides where it leads from a folder. -/
theorem step_congr {files files' : Files} {place : Place} {mode mode' : Nat}
    (there : files.entryAt? place = some (.folder mode))
    (there' : files'.entryAt? place = some (.folder mode')) (s : Step) :
    files'.step place s = files.step place s := by
  unfold step
  rw [there, there']

/-- What is a folder still is one, whatever its mode, and paths start where they did. -/
structure KeepsWays (files files' : Files) : Prop where
  folder : ∀ place mode, files.entryAt? place = some (.folder mode) →
    ∃ mode', files'.entryAt? place = some (.folder mode')
  working : files'.working = files.working

theorem KeepsFolders.ways {files files' : Files} (h : KeepsFolders files files') :
    KeepsWays files files' :=
  ⟨fun place mode there => ⟨mode, h.folder place mode there⟩, h.working⟩

/-- A step that is possible stays so while the folders are there. -/
theorem KeepsWays.step {files files' : Files} (h : KeepsWays files files')
    {place next : Place} {s : Step} (goes : files.step place s = .ok next) :
    files'.step place s = .ok next := by
  obtain ⟨mode, there⟩ := folder_of_step goes
  obtain ⟨mode', there'⟩ := h.folder place mode there
  rw [step_congr there there' s, goes]

/-- A way that could be gone can still be gone. -/
theorem KeepsWays.steps {files files' : Files} (h : KeepsWays files files')
    {steps : List Step} {place last : Place} (goes : steps.foldlM files.step place = .ok last) :
    steps.foldlM files'.step place = .ok last := by
  induction steps generalizing place with
  | nil => exact goes
  | cons s steps ih =>
    rw [List.foldlM_cons] at goes ⊢
    cases first : files.step place s with
    | error fault =>
      rw [first] at goes
      cases goes
    | ok next =>
      rw [first] at goes
      rw [h.step first]
      exact ih goes

/-- What a path leads to is still there while the folders are there. -/
theorem KeepsWays.locate {files files' : Files} (h : KeepsWays files files') {path : String}
    {place : Place} (leads : files.locate path = .ok place) : files'.locate path = .ok place := by
  rw [Files.locate] at leads ⊢
  split at leads
  · cases leads
  · split at leads
    · cases leads
    · split at leads
      · cases leads
      · rw [if_neg ‹_›, if_neg ‹_›, if_neg ‹_›]
        rw [walk, h.working]
        exact h.steps leads

theorem KeepsFolders.locate {files files' : Files} (h : KeepsFolders files files') {path : String}
    {place : Place} (leads : files.locate path = .ok place) : files'.locate path = .ok place :=
  h.ways.locate leads

theorem step_down {files : Files} {place : Place} {mode : Nat} {name : String}
    (there : files.entryAt? place = some (.folder mode)) (short : name.utf8ByteSize ≤ maxName) :
    files.step place (.down name) = .ok (place ++ [name]) := by
  unfold step
  rw [there]
  exact if_neg (Nat.not_lt.mpr short)

theorem place_of_step_down {files : Files} {place next : Place} {name : String}
    (goes : files.step place (.down name) = .ok next) : next = place ++ [name] := by
  obtain ⟨mode, there⟩ := folder_of_step goes
  unfold step at goes
  simp only [there] at goes
  by_cases long : maxName < name.utf8ByteSize
  · rw [if_pos long] at goes
    cases goes
  · rw [if_neg long] at goes
    cases goes
    rfl

theorem step_stay {files : Files} {place : Place} {mode : Nat}
    (there : files.entryAt? place = some (.folder mode)) :
    files.step place .stay = .ok place := by
  unfold step
  rw [there]

/-- Whether one stays in a folder first makes no difference. -/
theorem step_stay_bind (files : Files) (place : Place) (s : Step) :
    (files.step place .stay >>= fun next => files.step next s) = files.step place s := by
  cases there : files.entryAt? place with
  | none =>
    unfold step
    rw [there]
    rfl
  | some entry =>
    cases entry with
    | file mode content =>
      unfold step
      rw [there]
      rfl
    | folder mode =>
      rw [step_stay there]
      rfl

/-- One more name is one more step. -/
theorem walk_join (files : Files) (path : String) {name : String} (isName : IsName name) :
    files.walk (Path.ofText (Path.join path name)) =
      files.walk (Path.ofText path) >>= fun place => files.step place (.down name) := by
  obtain ⟨absolute, steps, joined, plain | stays⟩ := Path.ofText_join path isName
  · rw [joined, plain, walk, walk, List.foldlM_append]
    simp only [List.foldlM_cons, List.foldlM_nil, bind_pure]
  · rw [joined, stays, walk, walk, List.foldlM_append, List.foldlM_append]
    simp only [List.foldlM_cons, List.foldlM_nil, bind_pure, bind_assoc, step_stay_bind]

/-- From where the path of a folder leads it is one more step. -/
theorem walk_join_of_ok {files : Files} {path name : String} {place : Place}
    (leads : files.walk (Path.ofText path) = .ok place) (isName : IsName name) :
    files.walk (Path.ofText (Path.join path name)) = files.step place (.down name) := by
  rw [walk_join files path isName, leads]
  rfl

/-- What is in a folder is reached by way of the folder. -/
theorem folder_of_walk_join {files : Files} {path name : String} {last : Place}
    (isName : IsName name) (goes : files.walk (Path.ofText (Path.join path name)) = .ok last) :
    ∃ place, files.walk (Path.ofText path) = .ok place ∧
      files.step place (.down name) = .ok last := by
  rw [walk_join files path isName] at goes
  cases leads : files.walk (Path.ofText path) with
  | error fault =>
    rw [leads] at goes
    cases goes
  | ok place =>
    rw [leads] at goes
    exact ⟨place, rfl, goes⟩

/-- A path leads somewhere if the system takes it for a path and every step of it is possible. -/
theorem locate_eq_ok {files : Files} {path : String} {place : Place} :
    files.locate path = .ok place ↔ '\x00' ∉ path.toList ∧ path ≠ "" ∧
      path.utf8ByteSize ≤ maxPath ∧ files.walk (Path.ofText path) = .ok place := by
  rw [locate]
  split
  · rename_i zero
    simp [List.contains_iff_mem.mp zero]
  · rename_i zero
    split
    · rename_i empty
      simp [empty]
    · rename_i empty
      split
      · rename_i long
        simp [Nat.not_le.mpr long]
      · rename_i long
        simpa [empty, Nat.not_lt.mp long] using fun _ => zero

/-- One more name leads from a folder to what is directly in it. -/
theorem locate_join {files : Files} {path name : String} {place : Place} {mode : Nat}
    (leads : files.locate path = .ok place) (there : files.entryAt? place = some (.folder mode))
    (isName : IsName name) (short : name.utf8ByteSize ≤ maxName)
    (room : path.utf8ByteSize + name.utf8ByteSize < maxPath) :
    files.locate (Path.join path name) = .ok (place ++ [name]) := by
  obtain ⟨no_zero, nonempty, -, walk⟩ := locate_eq_ok.mp leads
  have goes := (walk_join_of_ok walk isName).trans (step_down there short)
  refine locate_eq_ok.mpr ⟨?_, ?_, ?_, goes⟩
  · rw [Path.join, if_neg (by rw [isName.not_absolute]; simp)]
    split
    · simp [no_zero, isName.no_zero]
    · simp [no_zero, isName.no_zero]
  · rw [Path.join, if_neg (by rw [isName.not_absolute]; simp)]
    split
    · simp [nonempty]
    · simp [nonempty]
  · have slash : "/".utf8ByteSize = 1 := rfl
    rw [Path.join, if_neg (by rw [isName.not_absolute]; simp)]
    split
    · rw [String.utf8ByteSize_append]
      omega
    · rw [String.utf8ByteSize_append, String.utf8ByteSize_append]
      omega

theorem place_of_locate_join {files : Files} {path name : String} {place last : Place}
    (leads : files.locate path = .ok place) (isName : IsName name)
    (goes : files.locate (Path.join path name) = .ok last) : last = place ++ [name] := by
  obtain ⟨-, -, -, walk⟩ := locate_eq_ok.mp leads
  obtain ⟨-, -, -, walks⟩ := locate_eq_ok.mp goes
  rw [walk_join_of_ok walk isName] at walks
  exact place_of_step_down walks

/-- Wherever the folder is, what a path inside it leads to has the name that the path ends with. -/
theorem name_of_locate_join {files : Files} {path name : String} {last : Place}
    (isName : IsName name) (goes : files.locate (Path.join path name) = .ok last) :
    ∃ place, last = place ++ [name] := by
  obtain ⟨-, -, -, walks⟩ := locate_eq_ok.mp goes
  obtain ⟨place, -, goes⟩ := folder_of_walk_join isName walks
  exact ⟨place, place_of_step_down goes⟩

theorem entryAt?_insert_self {files : Files} {place : Place} (h : place ≠ []) (entry : Entry) :
    (files.insert place entry).entryAt? place = some entry := by
  simp [entryAt?, insert, h]

theorem entryAt?_insert_of_ne {files : Files} {place other : Place} (h : other ≠ place)
    (entry : Entry) : (files.insert place entry).entryAt? other = files.entryAt? other := by
  rw [entryAt?, entryAt?]
  split
  · rfl
  · have differ : (other == place) = false := by simpa using h
    rw [insert, List.lookup_cons, differ]
    exact lookup_filter_ne h files.entries

theorem entryAt?_erase_of_ne {files : Files} {place other : Place} (h : other ≠ place) :
    (files.erase place).entryAt? other = files.entryAt? other := by
  rw [entryAt?, entryAt?]
  split
  · rfl
  · exact lookup_filter_ne h files.entries

/-- A file that comes and goes leaves nothing behind. -/
theorem erase_insert {files : Files} {place : Place} (nonempty : place ≠ [])
    (h : files.entryAt? place = none) (entry : Entry) :
    (files.insert place entry).erase place = files := by
  rw [entryAt?, if_neg nonempty] at h
  have kept := filter_of_lookup h
  rw [erase, insert, List.filter_cons_of_neg (by simp), kept, kept]

/-- A file that goes again leaves nothing behind but what came after it. -/
theorem erase_insert_insert {files : Files} {place other : Place} (nonempty : place ≠ [])
    (h : files.entryAt? place = none) (differ : other ≠ place) (entry entry' : Entry) :
    ((files.insert place entry).insert other entry').erase place = files.insert other entry' := by
  rw [entryAt?, if_neg nonempty] at h
  have kept := filter_of_lookup h
  have rest : (files.entries.filter (·.1 ≠ other)).filter (·.1 ≠ place) =
      files.entries.filter (·.1 ≠ other) :=
    List.filter_eq_self.mpr fun entry among =>
      List.filter_eq_self.mp kept entry (List.mem_filter.mp among).1
  rw [erase, insert, insert, insert]
  congr 1
  rw [kept, List.filter_cons_of_pos (by simpa using differ),
    List.filter_cons_of_pos (by simpa using differ.symm), List.filter_cons_of_neg (by simp), rest]

/-- A new file stands in nobody's way. -/
theorem keepsFolders_insert {files : Files} {place : Place}
    (free : ∀ mode, files.entryAt? place ≠ some (.folder mode)) (entry : Entry) :
    KeepsFolders files (files.insert place entry) := by
  refine ⟨fun other mode there => ?_, rfl⟩
  have differ : other ≠ place := by
    rintro rfl
    exact free mode there
  rw [entryAt?_insert_of_ne differ, there]

/-- Where a file goes no folder goes. -/
theorem keepsFolders_erase {files : Files} {place : Place}
    (file : ∀ mode, files.entryAt? place ≠ some (.folder mode)) :
    KeepsFolders files (files.erase place) := by
  refine ⟨fun other mode there => ?_, rfl⟩
  have differ : other ≠ place := by
    rintro rfl
    exact file mode there
  rw [entryAt?_erase_of_ne differ, there]

theorem childOf?_eq_some {folder place : Place} {name : String} :
    childOf? folder place = some name ↔ place = folder ++ [name] := by
  rw [childOf?]
  constructor
  · intro h
    split at h
    · split at h
      · rename_i last shown
        cases h
        exact shown
      · cases h
    · cases h
  · rintro rfl
    rw [List.getLast?_concat]
    exact if_pos rfl

theorem childOf?_eq_none {folder place : Place} (h : ∀ name, place ≠ folder ++ [name]) :
    childOf? folder place = none := by
  rw [Option.eq_none_iff_forall_ne_some]
  exact fun name found => h name (childOf?_eq_some.mp found)

def childEntry (folder : Place) (entry : Place × Entry) : Option (String × Entry) :=
  (childOf? folder entry.1).map (·, entry.2)

theorem childEntry_child (folder : Place) (name : String) (entry : Entry) :
    childEntry folder (folder ++ [name], entry) = some (name, entry) := by
  rw [childEntry, childOf?_eq_some.mpr rfl]
  rfl

theorem childEntry_other {folder place : Place} (h : ∀ name, place ≠ folder ++ [name])
    (entry : Entry) : childEntry folder (place, entry) = none := by
  rw [childEntry, childOf?_eq_none h]
  rfl

def inside (files : Files) (folder : Place) : List (String × Entry) :=
  files.entries.filterMap (childEntry folder)

/-- What is directly in a folder is found by its name. -/
theorem entryAt?_child (files : Files) (folder : Place) (name : String) :
    files.entryAt? (folder ++ [name]) = (files.inside folder).lookup name := by
  rw [entryAt?, if_neg (by simp), inside]
  induction files.entries with
  | nil => rfl
  | cons entry entries ih =>
    obtain ⟨place, e⟩ := entry
    by_cases child : ∃ other, place = folder ++ [other]
    · obtain ⟨other, rfl⟩ := child
      rw [List.filterMap_cons_some (childEntry_child folder other e), List.lookup_cons,
        List.lookup_cons, ih]
      simp
    · have away : ∀ other, place ≠ folder ++ [other] := fun other same => child ⟨other, same⟩
      rw [List.filterMap_cons_none (childEntry_other away e), List.lookup_cons,
        beq_false_of_ne (away name).symm, ih]

/-- What has another name in the folder is still there when a file goes. -/
theorem inside_erase (files : Files) (folder : Place) (name : String) :
    (files.erase (folder ++ [name])).inside folder =
      (files.inside folder).filter (·.1 ≠ name) := by
  rw [inside, erase, inside]
  induction files.entries with
  | nil => rfl
  | cons entry entries ih =>
    obtain ⟨place, e⟩ := entry
    by_cases child : ∃ other, place = folder ++ [other]
    · obtain ⟨other, rfl⟩ := child
      have found := childEntry_child folder other e
      by_cases same : other = name
      · subst same
        rw [List.filter_cons_of_neg (by simp), ih, List.filterMap_cons_some found,
          List.filter_cons_of_neg (by simp)]
      · rw [List.filter_cons_of_pos (by simpa using same), List.filterMap_cons_some found, ih,
          List.filterMap_cons_some found, List.filter_cons_of_pos (by simpa using same)]
    · have away : ∀ other, place ≠ folder ++ [other] := fun other same => child ⟨other, same⟩
      rw [List.filter_cons_of_pos (by simpa using away name),
        List.filterMap_cons_none (childEntry_other away e), ih,
        List.filterMap_cons_none (childEntry_other away e)]

/-- A new file is there with what has another name. -/
theorem inside_insert (files : Files) (folder : Place) (name : String) (entry : Entry) :
    (files.insert (folder ++ [name]) entry).inside folder =
      (name, entry) :: (files.inside folder).filter (·.1 ≠ name) := by
  have rest := inside_erase files folder name
  rw [inside, erase] at rest
  rw [inside, insert, List.filterMap_cons_some (childEntry_child folder name entry), rest]

section operations

variable {files : Files} {path : String} {place : Place}

theorem find_eq {entry : Entry} (leads : files.locate path = .ok place)
    (there : files.entryAt? place = some entry) : files.find path = .ok (place, entry) := by
  simp [find, bind, Except.bind, leads, there]

theorem find_missing (leads : files.locate path = .ok place) (free : files.entryAt? place = none) :
    files.find path = .error .notFound := by
  simp [find, bind, Except.bind, leads, free]

theorem readText_eq {mode : Nat} {text : String}
    (found : files.find path = .ok (place, .file mode (Bytes.ofText text))) :
    files.readText path = .ok text := by
  simp [readText, read, bind, Except.bind, found, Bytes.toText?_ofText]

theorem readText_missing (missing : files.find path = .error .notFound) :
    files.readText path = .error .notFound := by
  simp [readText, read, bind, Except.bind, missing]

theorem create_eq (leads : files.locate path = .ok place) (free : files.entryAt? place = none)
    (mode : Nat) (content : Bytes) :
    files.create path mode content = .ok (files.insert place (.file mode content)) := by
  simp [create, bind, Except.bind, leads, free]

theorem link_eq {source : String} {first : Place} {entry : Entry}
    (found : files.find source = .ok (first, entry)) (leads : files.locate path = .ok place)
    (free : files.entryAt? place = none) :
    files.link source path = .ok (files.insert place entry) := by
  simp [link, bind, Except.bind, found, leads, free]

/-- A file does not take the name of another. -/
theorem link_taken {source : String} {first : Place} {entry old : Entry}
    (found : files.find source = .ok (first, entry)) (leads : files.locate path = .ok place)
    (taken : files.entryAt? place = some old) :
    files.link source path = .error .alreadyExists := by
  simp [link, bind, Except.bind, found, leads, taken]

theorem remove_eq {mode : Nat} {content : Bytes}
    (found : files.find path = .ok (place, .file mode content)) :
    files.remove path = .ok (files.erase place) := by
  simp [remove, bind, Except.bind, found]

theorem remove_missing (missing : files.find path = .error .notFound) :
    files.remove path = .error .notFound := by
  simp [remove, bind, Except.bind, missing]

theorem list_eq {mode : Nat} (found : files.find path = .ok (place, .folder mode)) :
    files.list path = .ok ((files.inside place).mergeSort fun a b => a.1 ≤ b.1) := by
  have same : (fun (entry : Place × Entry) =>
      (childOf? place entry.1).map (·, entry.2)) = childEntry place := rfl
  simp [list, bind, Except.bind, found, inside, same]

end operations

end Files

end Storage

end ProviderWallet
