import MeterTelegram.Directory

namespace MeterTelegram.Directory

/-! Writing to one file of a directory: every name leads where it led before, only the content
of the file that was written is another one. -/

variable {directory after : Directory} {path start place : List Text} {parts : List Text}
  {name other content text : Text} {node : Node}

/-- The entries of a directory with the node at a path replaced. -/
def replaced (nodes : List (List Text × Node)) (path : List Text) (node : Node) :
    List (List Text × Node) :=
  nodes.map (fun (known, old) => if known = path then (known, node) else (known, old))

theorem lookup_replaced_other (nodes : List (List Text × Node)) (node : Node)
    (different : place ≠ path) : (replaced nodes path node).lookup place = nodes.lookup place := by
  induction nodes with
  | nil => rfl
  | cons first rest ih =>
      obtain ⟨here, held⟩ := first
      change List.lookup place ((if here = path then _ else _) :: replaced rest path node) = _
      by_cases written : here = path
      · subst written
        rw [if_pos rfl, List.lookup_cons, List.lookup_cons, beq_false_of_ne different, ih]
      · rw [if_neg written, List.lookup_cons, List.lookup_cons, ih]

theorem lookup_replaced_self {nodes : List (List Text × Node)}
    (known : nodes.any (fun (known, _) => known = path) = true) (node : Node) :
    (replaced nodes path node).lookup path = some node := by
  induction nodes with
  | nil => contradiction
  | cons first rest ih =>
      obtain ⟨here, held⟩ := first
      change List.lookup path ((if here = path then _ else _) :: replaced rest path node) = _
      by_cases written : here = path
      · rw [if_pos written, List.lookup_cons, written, beq_self_eq_true]
      · have behind : rest.any (fun (known, _) => known = path) = true := by
          simpa [written] using known
        rw [if_neg written, List.lookup_cons, beq_false_of_ne (Ne.symm written), ih behind]

theorem node?_put_other (directory : Directory) (node : Node) (different : place ≠ path) :
    (directory.put path node).node? place = directory.node? place := by
  have same : (directory.put path node).nodes.lookup place = directory.nodes.lookup place := by
    unfold put
    split
    · exact lookup_replaced_other directory.nodes node different
    · have single : List.lookup place [(path, node)] = none := by
        simp [List.lookup_cons, beq_false_of_ne different]
      rw [List.lookup_append, single, Option.or_none]
  rw [node?, node?, same]

theorem not_isStart (hidden : directory.node? path ≠ some .folder) : isStart path = false := by
  cases begins : isStart path with
  | false => rfl
  | true => exact absurd (by rw [node?, if_pos begins]) hidden

theorem node?_put_self (hidden : directory.node? path ≠ some .folder) (node : Node) :
    (directory.put path node).node? path = some node := by
  have inside := not_isStart hidden
  rw [node?, inside]
  simp only [Bool.false_eq_true, if_false, put]
  split
  · rename_i known
    exact lookup_replaced_self known node
  · rename_i unknown
    have absent : directory.nodes.lookup path = none := by
      refine List.lookup_eq_none_iff.mpr fun entry member => bne_iff_ne.mpr fun same => unknown ?_
      exact List.any_eq_true.mpr ⟨entry, member, decide_eq_true same.symm⟩
    rw [List.lookup_append, absent, Option.none_or, List.lookup_cons, beq_self_eq_true]

theorem node?_put (hidden : directory.node? path ≠ some .folder) (node : Node)
    (place : List Text) :
    (directory.put path node).node? place =
      if place = path then some node else directory.node? place := by
  by_cases same : place = path
  · rw [if_pos same, same, node?_put_self hidden]
  · rw [if_neg same, node?_put_other directory node same]

/-- Where a name leads, with the content of the file at a path replaced. -/
def rewritten (path : List Text) (content : Text) (found : List Text × Node) : List Text × Node :=
  (found.1, if found.1 = path then .file content else found.2)

/-- A walk that comes to its end goes on as before where a file is written. -/
theorem walk_put (hidden : directory.node? path ≠ some .folder)
    (walked : directory.walk start parts = .ok (place, node)) (content : Text) :
    (directory.put path (.file content)).walk start parts =
      .ok (rewritten path content (place, node)) := by
  induction parts generalizing start with
  | nil =>
      rw [walk, node?_put hidden]
      rw [walk] at walked
      cases here : directory.node? start with
      | none => simp [here] at walked
      | some found =>
          simp only [here, Except.ok.injEq, Prod.mk.injEq] at walked
          obtain ⟨rfl, rfl⟩ := walked
          by_cases written : start = path <;> simp [rewritten, written]
  | cons part rest ih =>
      rw [walk, node?_put hidden]
      rw [walk] at walked
      cases here : directory.node? start with
      | none => simp [here] at walked
      | some found =>
          cases found with
          | file old => simp [here] at walked
          | folder =>
              have elsewhere : start ≠ path := fun same => hidden (same ▸ here)
              simp only [here] at walked
              simp only [if_neg elsewhere]
              cases stepped : step start part with
              | error fault => simp [stepped] at walked
              | ok next =>
                  simp only [stepped] at walked
                  exact ih walked

/-- Where a file is replaced, all walks end as before. -/
theorem walk_put_file {old : Text} (known : directory.node? path = some (.file old))
    (start parts : List Text) (content : Text) :
    (directory.put path (.file content)).walk start parts =
      (directory.walk start parts).map (rewritten path content) := by
  have hidden : directory.node? path ≠ some .folder := by simp [known]
  induction parts generalizing start with
  | nil =>
      rw [walk, walk, node?_put hidden]
      by_cases written : start = path
      · simp [written, known, Except.map, rewritten]
      · rw [if_neg written]
        cases directory.node? start with
        | none => rfl
        | some found => simp [Except.map, rewritten, written]
  | cons part rest ih =>
      rw [walk, walk, node?_put hidden]
      by_cases written : start = path
      · simp [written, known, Except.map]
      · rw [if_neg written]
        cases directory.node? start with
        | none => rfl
        | some found =>
            cases found with
            | file old => rfl
            | folder =>
                cases stepped : step start part with
                | error fault => simp [Except.map]
                | ok next => exact ih next

theorem resolve_walk (directory : Directory) (name : Text) :
    directory.resolve name =
      if name.shown.isEmpty then .error .missing
      else if maxPath < name.shown.length then .error .nameTooLong
      else directory.walk (components name.shown).1 (components name.shown).2 := rfl

theorem resolve_put (hidden : directory.node? path ≠ some .folder)
    (resolved : directory.resolve name = .ok (place, node)) (content : Text) :
    (directory.put path (.file content)).resolve name =
      .ok (rewritten path content (place, node)) := by
  rw [resolve_walk] at resolved ⊢
  split at resolved
  · contradiction
  · rename_i given
    rw [if_neg given]
    split at resolved
    · contradiction
    · rename_i short
      rw [if_neg short]
      exact walk_put hidden resolved content

theorem resolve_put_file {old : Text} (known : directory.node? path = some (.file old))
    (name content : Text) :
    (directory.put path (.file content)).resolve name =
      (directory.resolve name).map (rewritten path content) := by
  rw [resolve_walk, resolve_walk]
  split
  · rfl
  · split
    · rfl
    · exact walk_put_file known _ _ content

/-- The place a name leads to, whatever stands there. -/
def target (name : Text) : Except Fault (List Text) :=
  (components name.shown).2.foldlM step (components name.shown).1

theorem walk_ok (walked : directory.walk start parts = .ok (place, node)) :
    parts.foldlM step start = .ok place ∧ directory.node? place = some node := by
  induction parts generalizing start with
  | nil =>
      rw [walk] at walked
      cases here : directory.node? start with
      | none => simp [here] at walked
      | some found =>
          simp only [here, Except.ok.injEq, Prod.mk.injEq] at walked
          obtain ⟨rfl, rfl⟩ := walked
          exact ⟨rfl, here⟩
  | cons part rest ih =>
      rw [walk] at walked
      cases here : directory.node? start with
      | none => simp [here] at walked
      | some found =>
          cases found with
          | file old => simp [here] at walked
          | folder =>
              simp only [here] at walked
              rw [List.foldlM_cons]
              cases stepped : step start part with
              | error fault => simp [stepped] at walked
              | ok next =>
                  simp only [stepped] at walked
                  exact ih walked

theorem resolve_ok (resolved : directory.resolve name = .ok (place, node)) :
    target name = .ok place ∧ directory.node? place = some node := by
  rw [resolve_walk] at resolved
  split at resolved
  · contradiction
  · split at resolved
    · contradiction
    · exact walk_ok resolved

theorem isFile_put_file {old : Text} (known : directory.node? path = some (.file old))
    (name content : Text) :
    (directory.put path (.file content)).isFile name = directory.isFile name := by
  rw [isFile, isFile, resolve_put_file known]
  cases resolved : directory.resolve name with
  | error fault => rfl
  | ok found =>
      obtain ⟨place, node⟩ := found
      by_cases written : place = path
      · obtain ⟨-, here⟩ := resolve_ok resolved
        rw [written, known] at here
        obtain rfl := Option.some.inj here
        simp only [Except.map, rewritten, if_pos written]
      · simp only [Except.map, rewritten, if_neg written]

theorem read_put (resolved : directory.resolve name = .ok (path, .file content)) (text : Text) :
    (directory.put path (.file text)).read name = .ok text := by
  rw [read, resolve_put_file (resolve_ok resolved).2, resolved]
  simp [Except.map, rewritten]

theorem walk_last {last : Text} {next : List Text}
    (walked : directory.walk start parts = .ok (place, .folder))
    (stepped : step place last = .ok next) (known : directory.node? next = some node) :
    directory.walk start (parts ++ [last]) = .ok (next, node) := by
  induction parts generalizing start with
  | nil =>
      obtain ⟨same, here⟩ := walk_ok walked
      obtain rfl := Except.ok.inj same
      simp only [List.nil_append, walk, here, stepped, known]
  | cons part rest ih =>
      rw [walk] at walked
      rw [List.cons_append, walk]
      cases here : directory.node? start with
      | none => simp [here] at walked
      | some found =>
          cases found with
          | file old => simp [here] at walked
          | folder =>
              simp only [here] at walked ⊢
              cases first : step start part with
              | error fault => simp [first] at walked
              | ok middle =>
                  simp only [first] at walked ⊢
                  exact ih walked

/-- A new file stands where nothing stood before. -/
theorem newPath?_some (missing : directory.resolve name = .error .missing)
    (found : directory.newPath? name = some path) :
    target name = .ok path ∧ directory.node? path = none := by
  unfold newPath? at found
  dsimp only at found
  split at found
  · rename_i last place ends walked
    split at found
    · rename_i next stepped
      split at found
      · obtain rfl := Option.some.inj found
        obtain ⟨front, whole⟩ := List.getLast?_eq_some_iff.mp ends
        rw [whole, List.dropLast_concat] at walked
        refine ⟨?_, ?_⟩
        · rw [target, whole, List.foldlM_append, (walk_ok walked).1]
          exact (bind_pure (step place last)).trans stepped
        · cases here : directory.node? next with
          | none => rfl
          | some node =>
              have arrives := walk_last walked stepped here
              rw [← whole] at arrives
              have present : name.shown.isEmpty = false := by
                cases empty : name.shown with
                | nil => simp [empty, components, Text.fields] at ends
                | cons byte rest => rfl
              rw [resolve_walk, present, arrives] at missing
              split at missing
              · contradiction
              · split at missing
                · cases missing
                · contradiction
      · contradiction
    · contradiction
  · contradiction

/-- Appending writes one file, at the place its name leads to. -/
theorem append?_some (appended : directory.append? name content = some after) :
    ∃ path text, target name = .ok path ∧ after = directory.put path (.file text) ∧
      (directory.node? path = none ∨
        ∃ old, directory.resolve name = .ok (path, .file old)) := by
  unfold append? at appended
  split at appended
  · rename_i path old resolved
    obtain rfl := Option.some.inj appended
    exact ⟨path, old ++ content, (resolve_ok resolved).1, rfl, .inr ⟨old, resolved⟩⟩
  · contradiction
  · rename_i missing
    obtain ⟨path, found, rfl⟩ := Option.map_eq_some_iff.mp appended
    obtain ⟨reached, unused⟩ := newPath?_some missing found
    exact ⟨path, content, reached, rfl, .inl unused⟩
  · contradiction

/-- Two names of one and the same file or folder. -/
def SamePlace (directory : Directory) (name other : Text) : Prop :=
  ∃ found, directory.resolve name = .ok found ∧ directory.resolve other = .ok found

/-- A file that is written and is not the same as another has its own target. -/
theorem target_ne_of_append (appended : directory.append? name content = some after)
    (resolved : directory.resolve other = .ok (place, .file text))
    (apart : ¬ directory.SamePlace name other) : target name ≠ target other := by
  obtain ⟨path, written, reached, -, unused | ⟨old, known⟩⟩ := append?_some appended
  · obtain ⟨there, here⟩ := resolve_ok resolved
    intro same
    obtain rfl := Except.ok.inj (reached.symm.trans (same.trans there))
    rw [unused] at here
    contradiction
  · obtain ⟨there, here⟩ := resolve_ok resolved
    intro same
    obtain rfl := Except.ok.inj (reached.symm.trans (same.trans there))
    rw [(resolve_ok known).2] at here
    exact apart ⟨_, known, by rw [resolved, ← Option.some.inj here]⟩

theorem resolve_append (appended : directory.append? name content = some after)
    (different : target name ≠ target other)
    (resolved : directory.resolve other = .ok (place, node)) :
    after.resolve other = .ok (place, node) := by
  obtain ⟨path, text, reached, rfl, written⟩ := append?_some appended
  have elsewhere : place ≠ path := by
    rintro rfl
    exact different (reached.trans (resolve_ok resolved).1.symm)
  have hidden : directory.node? path ≠ some .folder := by
    rcases written with unused | ⟨old, known⟩
    · simp [unused]
    · simp [(resolve_ok known).2]
  rw [resolve_put hidden resolved, rewritten, if_neg elsewhere]

end MeterTelegram.Directory
