import TokenSplit.Proofs.Config.Agreement
import TokenSplit.Session

/-!
# Steps of sessions

A step that fails changes nothing, and no step changes what a name stands for unless its own item
takes the name.  Values make a ratio, replace fields of one or come out of a file as one exactly if
they are its numbers; the fields of records can neither be changed nor removed.
-/

namespace TokenSplit

namespace Item

/-- Replacing fields of a ratio makes a ratio exactly if the fields are known and the values given
for them, with the old numbers for all others, are its numbers. -/
theorem replaceRatio_eq_ok_iff {r made : Ratio}
    {entries : List (String × Value)} :
    replaceRatio r entries = .ok made ↔
      (∀ e ∈ entries, e.1 ∈ Ratio.Field.all.map Ratio.Field.name) ∧
      made.IsMadeOf fun field =>
        (entries.lookup field.name).getD (.count (r.get field)) := by
  have hold (field : Ratio.Field) :
      (Ratio.Field.all.map fun f => (f.name, Value.count (r.get f))).lookup
        field.name = some (.count (r.get field)) := by
    cases field <;> rfl
  have hvalue (field : Ratio.Field) :
      (Arguments.named (entries ++ Ratio.Field.all.map fun f =>
        (f.name, .count (r.get f)))).forField field =
      (entries.lookup field.name).getD (.count (r.get field)) := by
    simp only [Arguments.forField, Arguments.get?, List.lookup_append, hold]
    cases entries.lookup field.name <;> rfl
  have hown : ∀ e ∈ Ratio.Field.all.map fun f => (f.name, Value.count (r.get f)),
      e.1 ∈ Ratio.signature.fields := by
    intro e he
    obtain ⟨field, hfield, rfl⟩ := List.mem_map.mp he
    exact List.mem_map_of_mem hfield
  rw [replaceRatio, Ratio.ofArguments_eq_ok_iff,
    Arguments.check_named_eq_ok_iff rfl]
  simp only [Ratio.IsMadeOf, hvalue, List.forall_mem_append]
  constructor
  · rintro ⟨⟨hentries, -⟩, hmade⟩
    exact ⟨hentries, hmade⟩
  · rintro ⟨hentries, hmade⟩
    exact ⟨⟨hentries, hown⟩, hmade⟩

end Item

namespace Session

/-- A session in which no name stands for anything yet. -/
def start (host : Host) : Session :=
  ⟨host, [], []⟩

/-- The session after steps. -/
def after (s : Session) (steps : List (Step × Option String)) : Session :=
  steps.foldl (fun s taken => (s.step taken.1 taken.2).1) s

theorem run_append (s : Session) (steps later : List (Step × Option String)) :
    s.run (steps ++ later) = s.run steps ++ (s.after steps).run later := by
  induction steps generalizing s with
  | nil => rfl
  | cons taken steps ih =>
      rw [List.cons_append, run, run, ih, List.cons_append]
      rfl

theorem find_bind_self (s : Session) (name : String) (item : Item) :
    (s.bind name item).find name = .ok item := by
  simp only [bind, find, List.lookup_cons, beq_self_eq_true]

/-- Taking out what stands under one name leaves what stands under the others. -/
theorem lookup_filter_ne {name other : String} (hother : other ≠ name)
    (bound : List (String × Item)) :
    (bound.filter fun b => b.1 != name).lookup other =
      bound.lookup other := by
  have hfirst : (other == name) = false := beq_eq_false_iff_ne.mpr hother
  induction bound with
  | nil => rfl
  | cons b bound ih =>
      obtain ⟨key, held⟩ := b
      by_cases hkey : key = name
      · subst hkey
        simp [List.lookup_cons, hfirst, ih]
      · have hkeep : (key != name) = true := bne_iff_ne.mpr hkey
        rw [List.filter_cons, if_pos hkeep, List.lookup_cons,
          List.lookup_cons, ih]

/-- Giving a name to an item leaves what all other names stand for. -/
theorem find_bind_of_ne (s : Session) {name other : String}
    (hother : other ≠ name) (item : Item) :
    (s.bind name item).find other = s.find other := by
  have hfirst : (other == name) = false := beq_eq_false_iff_ne.mpr hother
  simp only [bind, find, List.lookup_cons, hfirst,
    lookup_filter_ne hother]

theorem step_of_fault {s : Session} {step : Step} {fault : Fault}
    (hfault : (s.eval step).result = .error fault) (name : Option String) :
    (s.step step name).1 = s := by
  simp only [Session.step, hfault]

/-- Whatever a step makes, what names stand for stays the same until its item takes a name. -/
theorem find_settle (s : Session) (made : Made) (name : String) :
    (s.settle made).1.find name = s.find name := by
  cases made <;> rfl

/-- The fields of a record can neither be changed nor removed. -/
theorem eval_set_of_record {s : Session} {name : String} {item : Item}
    (hfind : s.find name = .ok item) (hrecord : item.isRecord)
    (field : String) :
    (s.eval (.set name field)).result = .error (.frozenAssignment field) ∧
      (s.eval (.erase name field)).result =
        .error (.frozenDeletion field) := by
  simp only [eval, Logged.result_bind, Logged.result_liftM, hfind, ok_bind,
    hrecord]
  exact ⟨rfl, rfl⟩

/-- A step leaves what a name stands for, unless its own item takes the name. -/
theorem find_step_of_ne (s : Session) (step : Step) {name : String}
    {taken : Option String} (htaken : taken ≠ some name) :
    (s.step step taken).1.find name = s.find name := by
  cases hmade : (s.eval step).result with
  | error fault => rw [step_of_fault hmade]
  | ok made =>
      cases taken with
      | none => simp only [Session.step, hmade, find_settle]
      | some other =>
          have hother : name ≠ other := by
            rintro rfl
            exact htaken rfl
          simp only [Session.step, hmade, find_bind_of_ne _ hother, find_settle]

/-- A name goes on standing for the same item over steps of any number whose items do not take it,
by induction on the steps. -/
theorem find_after_of_ne (s : Session) {name : String}
    {steps : List (Step × Option String)}
    (hsteps : ∀ taken ∈ steps, taken.2 ≠ some name) :
    (s.after steps).find name = s.find name := by
  induction steps generalizing s with
  | nil => rfl
  | cons taken steps ih =>
      rw [List.forall_mem_cons] at hsteps
      exact (ih _ hsteps.2).trans (s.find_step_of_ne taken.1 hsteps.1)

theorem getLast?_run_item (s : Session) {name : String} {item : Item}
    {steps : List (Step × Option String)}
    (hfind : (s.after steps).find name = .ok item) :
    (s.run (steps ++ [(.item name, none)])).getLast? =
      some (s.after steps, ⟨.ok item, []⟩) := by
  have hitem : (s.after steps).eval (.item name) = ⟨.ok (.item item), []⟩ := by
    simp only [eval, hfind]
    rfl
  rw [run_append, List.getLast?_append, run, Session.step, hitem]
  rfl

/-! ## What steps make -/

/-- A step makes a ratio of values exactly if the values belong to fields and are, together with the
standard ones, the numbers of the ratio. -/
theorem eval_ratio_eq_ok_iff (s : Session) (args : Arguments) (made : Made) :
    (s.eval (.ratio args)).result = .ok made ↔
      ∃ r, made = .item (.ratio r) ∧ args.check Ratio.signature = .ok () ∧
        r.IsMadeOf args.forField := by
  simp only [eval, Logged.result_bind, Logged.result_liftM,
    Logged.result_pure, bind_ok_eq_ok_iff, Ratio.ofArguments_eq_ok_iff]

/-- A step makes a ratio of an old one exactly if the values that are given belong to fields and are,
together with the old numbers, the numbers of the ratio. -/
theorem eval_replace_eq_ok_iff {s : Session} {name : String} {r : Ratio}
    (hfind : s.find name = .ok (.ratio r)) (entries : List (String × Value))
    (made : Made) :
    (s.eval (.replace name none entries)).result = .ok made ↔
      ∃ new, made = .item (.ratio new) ∧
        (∀ e ∈ entries, e.1 ∈ Ratio.Field.all.map Ratio.Field.name) ∧
        new.IsMadeOf fun field =>
          (entries.lookup field.name).getD (.count (r.get field)) := by
  have hreplace : (s.eval (.replace name none entries)).result =
      Item.replaceRatio r entries >>= fun new => .ok (.item (.ratio new)) := by
    simp only [eval, Logged.result_bind, Logged.result_liftM, hfind, find?,
      ok_bind]
    cases hnew : Item.replaceRatio r entries with
    | error fault =>
        simp only [Item.replace, hnew]
        rfl
    | ok new =>
        simp only [Item.replace, hnew]
        rfl
  rw [hreplace]
  simp only [bind_ok_eq_ok_iff, Item.replaceRatio_eq_ok_iff]

/-- A step loads a configuration exactly if the file holds a value that gives one.  The numbers of its
ratio are then those that the value holds, with the standard ones where it holds none. -/
theorem eval_load_eq_ok_iff (s : Session) (path : String) (made : Made) :
    (s.eval (.load path)).result = .ok made ↔
      ∃ octets given config,
        s.host.disk.find (Path.ofString path) = .found (.file octets) ∧
        s.host.read octets = .ok given ∧
        Config.ofValue s.host.arrangement given = .ok config ∧
        config.ratio.IsMadeOf (Config.givenFor (given.inner "ratio")
          ((given.held? "threshold").getD (.count 100))) ∧
        made = .item config.item := by
  simp only [eval, Logged.result_bind, Logged.result_liftM,
    Logged.result_pure, bind_ok_eq_ok_iff]
  constructor
  · rintro ⟨config, hmade, hconfig⟩
    obtain ⟨octets, given, hfile, hread, hgiven⟩ :=
      Config.exists_of_load_eq_ok hconfig
    obtain ⟨-, -, hratio, -⟩ := Config.ofValue_eq_ok_iff.mp hgiven
    exact ⟨octets, given, config, hfile, hread, hgiven,
      (Config.ratioOf_eq_ok_iff_isMadeOf.mp hratio).2, hmade⟩
  · rintro ⟨octets, given, config, hfile, hread, hgiven, -, hmade⟩
    refine ⟨config, hmade, ?_⟩
    rw [Config.load_of_read hfile hread, hgiven]

/-- An edit makes nothing but the usage that the name stands for, with the entry written. -/
theorem eval_put_eq_ok_iff (s : Session) (name key : String) (value : Value)
    (made : Made) :
    (s.eval (.put name key value)).result = .ok made ↔
      ∃ place, s.find name = .ok (.usage place) ∧
        made = .edited place ((Item.usageAt s.usages place).put key value) := by
  simp only [eval, Logged.result_bind, Logged.result_liftM]
  cases hfind : s.find name with
  | error fault => simp
  | ok item =>
      cases item with
      | usage place =>
          simp only [Except.ok.injEq, Item.usage.injEq, exists_eq_left']
          constructor
          · intro hmade
            exact (Except.ok.inj hmade).symm
          · rintro rfl
            rfl
      | _ =>
          refine iff_of_false (fun hmade => ?_) (by simp)
          cases hmade

end Session

end TokenSplit
