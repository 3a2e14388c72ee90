import PromptRegistry.CommandLine.Arguments
import PromptRegistry.Proofs.Template.Variables
import PromptRegistry.Proofs.Uri

/-!
# Values from the command line

An assignment is cut at its first equals sign and the name in front of it trimmed
(`readAssignment_eq_ok`). So the names that can be given a value are not empty, have no blanks at
either end and no equals sign anywhere. The arguments of a command can carry any list of values for
such names, and no other list (`ofArguments_formatArguments`). A variable of a template is not empty
and has no blanks, so that with it all depends on the equals sign (`variableNames_assignable`).
-/

namespace PromptRegistry.CommandLine

-- ---------------------------------------------------------------------------
-- Assignments
-- ---------------------------------------------------------------------------

structure IsAssignable (name : String) : Prop where
  nonempty : name ≠ ""
  trimmed : Text.trimmed name = name
  unsplit : '=' ∉ name.toList

theorem readAssignment_eq_ok {text name value : String} :
    readAssignment text = .ok (name, value) ↔ ∃ written, '=' ∉ written.toList ∧
      text = written ++ "=" ++ value ∧ name = Text.trimmed written ∧ name ≠ "" := by
  constructor
  · intro h
    unfold readAssignment at h
    split at h
    · cases h
    · next written after hcut =>
      obtain ⟨hunsplit, htext⟩ := Uri.splitOnce?_eq_some.1 hcut
      obtain ⟨hne, h⟩ := ite_error_eq_ok.1 h
      cases h
      refine ⟨String.ofList written, by simpa using hunsplit, ?_, ?_, ?_⟩
      · exact String.toList_inj.1 (by simp [htext])
      · rw [Text.trimmed, String.toList_ofList]
      · simpa using hne
  · rintro ⟨written, hunsplit, rfl, rfl, hne⟩
    have hcut : Uri.splitOnce? '=' (written ++ "=" ++ value).toList =
        some (written.toList, value.toList) :=
      Uri.splitOnce?_eq_some.2 ⟨hunsplit, by simp⟩
    rw [readAssignment, hcut]
    exact ite_error_eq_ok.2 ⟨by simpa [Text.trimmed] using hne, by simp [Text.trimmed]⟩

theorem isAssignable_of_readAssignment (h : readAssignment text = .ok e) : IsAssignable e.1 := by
  obtain ⟨written, hunsplit, -, hname, hne⟩ := readAssignment_eq_ok.1 h
  refine ⟨hne, ?_, fun hsign => ?_⟩
  · simp [hname, Text.trimmed, Text.trim_trim]
  · rw [hname, Text.trimmed, String.toList_ofList] at hsign
    exact hunsplit (Text.mem_of_mem_trim hsign)

theorem IsAssignable.readAssignment_eq (h : IsAssignable name) (value : String) :
    readAssignment (name ++ "=" ++ value) = .ok (name, value) :=
  readAssignment_eq_ok.2 ⟨name, h.unsplit, rfl, h.trimmed.symm, h.nonempty⟩

theorem isAssignable_iff (h : IsName name) : IsAssignable name ↔ '=' ∉ name.toList := by
  refine ⟨IsAssignable.unsplit, fun hunsplit => ⟨h.nonempty, ?_, hunsplit⟩⟩
  have htrim := Text.trim_of_not_blank fun c hc => (h.chars c hc).2.2
  rw [Text.trimmed, htrim, String.ofList_toList]

-- ---------------------------------------------------------------------------
-- Values of a command
-- ---------------------------------------------------------------------------

namespace Reading

def Assigned (r : Reading) : Prop := ∀ e ∈ r.values, IsAssignable e.1

section
variable {shape : Shape} {r r' : Reading}

theorem Assigned.assign (hr : r.Assigned) (h : r.assign text = .ok r') : r'.Assigned := by
  unfold Reading.assign at h
  split at h
  · next e he =>
    cases h
    intro d hd
    rcases List.mem_append.1 hd with hd | hd
    · exact hr d hd
    · obtain rfl := List.mem_singleton.1 hd
      exact isAssignable_of_readAssignment he
  · cases h

theorem Assigned.settle (hr : r.Assigned) (h : r.settle = .ok r') : r'.Assigned := by
  unfold Reading.settle at h
  split at h
  · cases h
    exact hr
  · cases h
  · exact hr.assign h

theorem Assigned.takePlain (hr : r.Assigned) (h : r.takePlain shape text = .ok r') :
    r'.Assigned := by
  unfold Reading.takePlain at h
  split at h
  · obtain ⟨s, hs, h⟩ := bind_eq_ok.1 h
    have hsettled := hr.settle hs
    cases h
    exact hsettled
  · cases h

theorem Assigned.takeLong (hr : r.Assigned) (h : r.takeLong shape name value = .ok r') :
    r'.Assigned := by
  unfold Reading.takeLong at h
  split at h
  · -- the option that was met before is read first, so that two values can come of one argument
    obtain ⟨s, hs, h⟩ := bind_eq_ok.1 h
    have hsettled := hr.settle hs
    split at h
    · exact hsettled.assign h
    · cases h
      exact hsettled
  · simp only [ite_error_eq_ok, bind_eq_ok] at h
    obtain ⟨-, -, s, hs, -, -, h⟩ := h
    have hsettled := hr.settle hs
    cases h
    exact hsettled

theorem takeShort_ne_ok (letters : List Char) (r : Reading) : r.takeShort letters ≠ .ok r' := by
  unfold takeShort
  split
  · intro h
    obtain ⟨_, _, h⟩ := bind_eq_ok.1 h
    cases h
  · nofun

theorem Assigned.take (hr : r.Assigned) (h : r.take shape text = .ok r') : r'.Assigned := by
  unfold Reading.take at h
  split at h
  · exact hr.takePlain h
  split at h
  · cases h
    exact hr
  · split at h
    · exact hr.takeLong h
    · exact hr.takeLong h
  · exact (takeShort_ne_ok _ _ h).elim
  · split at h
    · cases h
      exact hr
    · exact hr.takePlain h

theorem Assigned.foldlM {args : List String} (hr : r.Assigned)
    (h : args.foldlM (Reading.take shape) r = .ok r') : r'.Assigned := by
  induction args generalizing r with
  | nil =>
    cases h
    exact hr
  | cons text args ih =>
    rw [List.foldlM_cons] at h
    obtain ⟨s, hs, h⟩ := bind_eq_ok.1 h
    exact ih (hr.take hs) h

theorem assigned_of_all (h : all shape args = .ok r) : r.Assigned := by
  obtain ⟨s, hs, h⟩ := bind_eq_ok.1 h
  obtain ⟨s', hs', h⟩ := bind_eq_ok.1 h
  obtain ⟨-, h⟩ := ite_error_eq_ok.1 h
  cases h
  have hnone : ({} : Reading).Assigned := nofun
  exact (hnone.foldlM hs).settle hs'

end

end Reading

theorem isAssignable_of_ofArguments
    (h : Command.ofArguments args = .ok (.format uri values allowPartial)) :
    ∀ e ∈ values, IsAssignable e.1 := by
  unfold Command.ofArguments at h
  split at h
  · cases h
  · obtain ⟨_, _, h⟩ := bind_eq_ok.1 h
    cases h
  · obtain ⟨r, hr, h⟩ := bind_eq_ok.1 h
    cases h
    exact Reading.assigned_of_all hr
  · obtain ⟨_, _, h⟩ := bind_eq_ok.1 h
    cases h
  · cases h
  · cases h

-- ---------------------------------------------------------------------------
-- Arguments for values
-- ---------------------------------------------------------------------------

/-- Arguments that ask for a prompt to be formatted. The address stands behind two hyphens, where it
is a plain argument whatever it begins with. -/
def formatArguments (uri : String) (values : List (String × String)) (allowPartial : Bool) :
    List String :=
  "format" :: (values.map (fun e => "--var=" ++ (e.1 ++ "=" ++ e.2)) ++
    (if allowPartial then ["--allow-partial"] else []) ++ ["--", uri])

namespace Reading

theorem take_long {r : Reading} (hr : r.plainOnly = false)
    (htext : text.toList = '-' :: '-' :: cs) (hcut : Uri.splitOnce? '=' cs = some (name, value)) :
    r.take shape text = r.takeLong shape (String.ofList name) (some (String.ofList value)) := by
  cases cs with
  | nil => cases hcut
  | cons c cs => simp [take, hr, htext, hcut]

theorem take_assignment (h : readAssignment text = .ok e) (es : List (String × String)) :
    take formatShape { values := es } ("--var=" ++ text) = .ok { values := es ++ [e] } := by
  have htext : ("--var=" ++ text).toList =
      '-' :: '-' :: ("var".toList ++ '=' :: text.toList) := by
    rw [String.toList_append]
    rfl
  -- the first equals sign is the one behind the option, not the one in the assignment
  have hcut : Uri.splitOnce? '=' ("var".toList ++ '=' :: text.toList) =
      some ("var".toList, text.toList) := Uri.splitOnce?_eq_some.2 ⟨by decide, rfl⟩
  rw [take_long rfl htext hcut, String.ofList_toList, String.ofList_toList]
  show assign text { values := es } = _
  rw [assign, h]

theorem foldlM_assignments {es : List (String × String)} (h : ∀ e ∈ es, IsAssignable e.1)
    (ds : List (String × String)) :
    (es.map fun e => "--var=" ++ (e.1 ++ "=" ++ e.2)).foldlM (take formatShape) { values := ds } =
      .ok { values := ds ++ es } := by
  induction es generalizing ds with
  | nil =>
    rw [List.append_nil]
    rfl
  | cons e es ih =>
    obtain ⟨he, hes⟩ := List.forall_mem_cons.1 h
    rw [List.append_cons ds e es, List.map_cons, List.foldlM_cons,
      take_assignment (he.readAssignment_eq e.2)]
    exact ih hes (ds ++ [e])

end Reading

/-- A command can carry any values for names that can be given one, and carries no other. -/
theorem ofArguments_formatArguments {uri : String} {values : List (String × String)}
    {allowPartial : Bool} :
    Command.ofArguments (formatArguments uri values allowPartial) =
      .ok (.format uri values allowPartial) ↔ ∀ e ∈ values, IsAssignable e.1 := by
  refine ⟨isAssignable_of_ofArguments, fun h => ?_⟩
  rw [formatArguments, Command.ofArguments, Reading.all, List.foldlM_append, List.foldlM_append,
    Reading.foldlM_assignments h]
  cases allowPartial with
  | false => rfl
  | true => rfl

-- ---------------------------------------------------------------------------
-- Variables of a template
-- ---------------------------------------------------------------------------

/-- A variable without an equals sign in its name is given any value by an assignment, name and
value as they are. To a variable with an equals sign in its name no text assigns a value. So just
those of the first kind can be given values by a command. -/
theorem variableNames_assignable {t : Template} (h : name ∈ t.variableNames) :
    ('=' ∉ name.toList → ∀ value, readAssignment (name ++ "=" ++ value) = .ok (name, value)) ∧
      ('=' ∈ name.toList → ∀ text value, readAssignment text ≠ .ok (name, value)) ∧
      ∀ value, (∃ args uri values allowPartial,
        Command.ofArguments args = .ok (.format uri values allowPartial) ∧
          (name, value) ∈ values) ↔ '=' ∉ name.toList := by
  have hassignable := isAssignable_iff (Template.mem_variableNames.1 h).1
  refine ⟨fun hunsplit => (hassignable.2 hunsplit).readAssignment_eq, ?_, fun value => ?_⟩
  · intro hsign text value hread
    exact (isAssignable_of_readAssignment hread).unsplit hsign
  · constructor
    · rintro ⟨args, uri, values, allowPartial, hargs, hvalue⟩
      exact (isAssignable_of_ofArguments hargs _ hvalue).unsplit
    · intro hunsplit
      have hall : ∀ e ∈ [(name, value)], IsAssignable e.1 :=
        List.forall_mem_singleton.2 (hassignable.2 hunsplit)
      exact ⟨_, "", _, false, ofArguments_formatArguments.2 hall, List.mem_singleton_self _⟩

theorem variableNames_assignable_two :
    let t : Template := .chat [⟨"system", "\x7b\x7b --é \x7d\x7d"⟩,
      ⟨"user", "\x7b\x7ba=b\x7d\x7d"⟩]
    "--é" ∈ t.variableNames ∧ "a=b" ∈ t.variableNames ∧
      readAssignment "--é= x=y " = .ok ("--é", " x=y ") ∧
      (∃ args uri values allowPartial,
        Command.ofArguments args = .ok (.format uri values allowPartial) ∧
          ("--é", " x=y ") ∈ values) ∧
      ∀ text, readAssignment text ≠ .ok ("a=b", "c") := by
  intro t
  have hfirst : "--é" ∈ t.variableNames := by decide +kernel
  have hsecond : "a=b" ∈ t.variableNames := by decide +kernel
  have hunsplit : '=' ∉ "--é".toList := by decide
  have hsign : '=' ∈ "a=b".toList := by decide
  obtain ⟨hread, -, hcommand⟩ := variableNames_assignable hfirst
  obtain ⟨-, hrefused, -⟩ := variableNames_assignable hsecond
  exact ⟨hfirst, hsecond, hread hunsplit " x=y ", (hcommand " x=y ").2 hunsplit,
    fun text => hrefused hsign text "c"⟩

end PromptRegistry.CommandLine
