import Mathlib.Data.List.TakeWhile
import ShareStreaks.CommandLine.Arguments
import ShareStreaks.Proofs.Decimal.Digits

/-!
# Command lines say what they were made from

What a run is asked for (`Wishes`) can be written as a command line, one argument for each option that is
not left out, with the value behind an equals sign.  In whatever order the arguments come, as long as the
filters keep theirs, the command line is read as just these wishes (`readArguments_written`).

The proof goes argument by argument.  A value that is still pending shows nowhere but in the database:
looked at, it gives what was collected (`Reading.Shows`).  And what is collected with the arguments still
to come leads to the same request, because each of them finds its place free (`Collected.LeadsTo`).
-/

set_option autoImplicit false

namespace ShareStreaks

/-! ## What a command line is made from -/

/-- Something said on a command line: the value of an argument, or a switch. -/
inductive Setting where
  | value (a : Argument) (text : String)
  | switch (s : Switch)
deriving DecidableEq

namespace Setting

/-- The setting as one argument of a command line. -/
def written : Setting → String
  | .value .database text => text
  | .value .outputDirectory text => "--output-dir=" ++ text
  | .value .filter text => "--filter=" ++ text
  | .value .termLength text => "--term-len=" ++ text
  | .value .attr text => "--attr=" ++ text
  | .value .since text => "--since=" ++ text
  | .value .metric text => "--metric=" ++ text
  | .switch .noDump => "--no-dump"
  | .switch .verbose => "--verbose"
  | .switch .help => "--help"
  | .switch .version => "--version"

/-- The value for an argument, if this is one. -/
def textFor? (a : Argument) : Setting → Option String
  | .value b text => if b = a then some text else none
  | .switch _ => none

def switch? : Setting → Option Switch
  | .value .. => none
  | .switch s => some s

end Setting

/-- The values given to an argument, in their order. -/
def textsFor (ss : List Setting) (a : Argument) : List String := ss.filterMap (Setting.textFor? a)

/-- The switches that are turned on, as often as they are. -/
def switchesOf (ss : List Setting) : List Switch := ss.filterMap Setting.switch?

/-- A text that is read as a threshold. -/
structure FilterText where
  text : String
  threshold : Threshold
  reads : readThreshold text = .ok threshold

/-- An integer of 64 bits as a text. -/
def integerText (n : Int64) : String := String.ofList (signedDigits n.toInt)

def Metric.written : Metric → String
  | .authors => "authors"
  | .hits => "hits"

/-- What a run is asked for.  An option that is left out is absent. -/
structure Wishes where
  database : String
  database_ne : database ≠ ""
  /-- The database is not taken for an option. -/
  database_plain : database.toList.head? ≠ some '-'
  outputDirectory : Option String
  outputDirectory_ne : outputDirectory ≠ some ""
  filters : List FilterText
  termLength : Option Int64
  attr : Option Int64
  since : Option String
  metric : Option Metric
  noDump : Bool
  verbose : Bool

namespace Wishes

/-- The values to be given to an argument. -/
def texts (w : Wishes) : Argument → List String
  | .database => [w.database]
  | .outputDirectory => w.outputDirectory.toList
  | .filter => w.filters.map FilterText.text
  | .termLength => w.termLength.toList.map integerText
  | .attr => w.attr.toList.map integerText
  | .since => w.since.toList
  | .metric => w.metric.toList.map Metric.written

/-- The switches to be turned on. -/
def switches (w : Wishes) : List Switch :=
  (if w.noDump then [.noDump] else []) ++ if w.verbose then [.verbose] else []

/-- The settings say the wishes and nothing else.  The order is free, but the values of one argument
keep theirs. -/
structure SaidBy (w : Wishes) (ss : List Setting) : Prop where
  texts : ∀ a, textsFor ss a = w.texts a
  switches : (switchesOf ss).Perm w.switches

/-- The request, usual values standing for what is absent. -/
def request (w : Wishes) : Request where
  database := ⟨w.database⟩
  outputDirectory := ⟨w.outputDirectory.getD "."⟩
  filters := w.filters.map FilterText.threshold
  termLength := w.termLength.elim 1 Int64.toInt
  attr := w.attr.elim 0 Int64.toInt
  since := w.since.getD "1450000000"
  metric := w.metric.getD .authors
  noDump := w.noDump
  verbose := w.verbose

end Wishes

/-! ## Single arguments -/

namespace Reading

variable {r : Reading}

/-- Everything pending looked at, the reader has collected `c`. -/
structure Shows (r : Reading) (c : Collected) : Prop where
  byPlace : r.byPlace = false
  hasDatabase : r.hasDatabase = c.database.isSome
  settle : r.settle = .ok { r with collected := c, pending := none }

theorem shows_start : ({} : Reading).Shows {} := ⟨rfl, rfl, rfl⟩

theorem take_named {arg : String} {cs : List Char} (h : r.byPlace = false)
    (harg : arg.toList = '-' :: '-' :: cs) (hne : cs ≠ []) : r.take arg = r.named cs := by
  have hdashes : arg ≠ "--" := by
    rintro rfl
    rw [show "--".toList = ['-', '-'] by decide] at harg
    exact hne (by simpa using harg.symm)
  rw [take, h, if_neg Bool.false_ne_true, if_neg hdashes, harg]
  rfl

private theorem forall_bne_of_notMem {c : Char} {cs : List Char} (h : c ∉ cs) :
    ∀ d ∈ cs, (d != c) = true := fun _ hd => bne_iff_ne.2 fun heq => h (heq ▸ hd)

theorem named_value {a : Argument} {name : String} (hname : '=' ∉ name.toList)
    (h : CommandOption.ofName name = some (.withValue a)) (value : List Char) :
    r.named (name.toList ++ '=' :: value) = r.giveNow a (String.ofList value) := by
  have hne := forall_bne_of_notMem hname
  simp only [named]
  rw [List.takeWhile_append_of_pos hne, List.dropWhile_append_of_pos hne,
    List.takeWhile_cons_of_neg (by decide), List.dropWhile_cons_of_neg (by decide), List.append_nil,
    String.ofList_toList, h]

theorem named_switch {s : Switch} {name : String} (hname : '=' ∉ name.toList)
    (h : CommandOption.ofName name = some (.switch s)) : r.named name.toList = r.turnOn s := by
  have hne := forall_bne_of_notMem hname
  simp only [named]
  rw [List.takeWhile_eq_self_iff.2 hne, List.dropWhile_eq_nil_iff.2 hne, String.ofList_toList, h]

theorem take_value {a : Argument} (h : r.byPlace = false) (ha : a ≠ .database) (text : String) :
    r.take (Setting.value a text).written = r.giveNow a text := by
  have hnamed (name : String) {arg : String} (hname : '=' ∉ name.toList)
      (hoption : CommandOption.ofName name = some (.withValue a))
      (harg : arg.toList = '-' :: '-' :: (name.toList ++ '=' :: text.toList)) :
      r.take arg = r.giveNow a text := by
    rw [take_named h harg (by simp), named_value hname hoption, String.ofList_toList]
  cases a with
  | database => exact absurd rfl ha
  | outputDirectory => exact hnamed "output-dir" (by decide) rfl (by simp [Setting.written])
  | filter => exact hnamed "filter" (by decide) rfl (by simp [Setting.written])
  | termLength => exact hnamed "term-len" (by decide) rfl (by simp [Setting.written])
  | attr => exact hnamed "attr" (by decide) rfl (by simp [Setting.written])
  | since => exact hnamed "since" (by decide) rfl (by simp [Setting.written])
  | metric => exact hnamed "metric" (by decide) rfl (by simp [Setting.written])

theorem take_switch (h : r.byPlace = false) (s : Switch) :
    r.take (Setting.switch s).written = r.turnOn s := by
  have hnamed (name : String) {arg : String} (hname : '=' ∉ name.toList)
      (hoption : CommandOption.ofName name = some (.switch s))
      (harg : arg.toList = '-' :: '-' :: name.toList) (hne : name.toList ≠ []) :
      r.take arg = r.turnOn s := by
    rw [take_named h harg hne, named_switch hname hoption]
  cases s with
  | noDump => exact hnamed "no-dump" (by decide) rfl (by decide) (by decide)
  | verbose => exact hnamed "verbose" (by decide) rfl (by decide) (by decide)
  | help => exact hnamed "help" (by decide) rfl (by decide) (by decide)
  | version => exact hnamed "version" (by decide) rfl (by decide) (by decide)

theorem take_plain {arg : String} (h : r.byPlace = false) (hplain : arg.toList.head? ≠ some '-') :
    r.take arg = r.value arg := by
  have hdashes : arg ≠ "--" := by
    rintro rfl
    exact hplain (by decide)
  rw [take, h, if_neg Bool.false_ne_true, if_neg hdashes]
  split
  · rename_i heq
    exact absurd (by rw [heq]; rfl) hplain
  · rename_i heq
    exact absurd (by rw [heq]; rfl) hplain
  · rfl

namespace Shows

variable {c c' : Collected}

/-- More was collected, and nothing is pending. -/
theorem next (hr : r.Shows c) (hdatabase : c'.database = c.database) :
    Shows { r with collected := c', pending := none } c' :=
  ⟨hr.byPlace, by rw [hdatabase]; exact hr.hasDatabase, rfl⟩

theorem value (hr : r.Shows c) {a : Argument} (ha : a ≠ .database) {text : String}
    (hgive : c.give a text = .ok c') (hdatabase : c'.database = c.database) :
    ∃ r', r.take (Setting.value a text).written = .ok r' ∧ r'.Shows c' := by
  refine ⟨_, ?_, hr.next hdatabase⟩
  rw [take_value hr.byPlace ha, giveNow, hr.settle]
  simp [hgive, bind, Except.bind, pure, Except.pure]

theorem switch (hr : r.Shows c) {s : Switch} (hturn : c.turnOn s = .ok c')
    (hdatabase : c'.database = c.database) :
    ∃ r', r.take (Setting.switch s).written = .ok r' ∧ r'.Shows c' := by
  refine ⟨_, ?_, hr.next hdatabase⟩
  rw [take_switch hr.byPlace, turnOn, hr.settle]
  simp [hturn, bind, Except.bind, pure, Except.pure]

theorem value_eq_place (hr : r.Shows c) (arg : String) : r.value arg = r.place arg := by
  rw [Reading.value]
  split
  -- an option that still waits for its value could not be settled
  · rename_i hpending
    have hsettle := hr.settle
    rw [Reading.settle, hpending] at hsettle
    exact nomatch hsettle
  · rfl

theorem database (hr : r.Shows c) {text : String} (hplain : text.toList.head? ≠ some '-')
    (hnone : c.database = none) (hgive : c.give .database text = .ok c')
    (hsome : c'.database.isSome = true) :
    ∃ r', r.take (Setting.value .database text).written = .ok r' ∧ r'.Shows c' := by
  have hfree : r.hasDatabase = false := by rw [hr.hasDatabase, hnone]; rfl
  -- the name stays pending, so that only settling shows it among what is collected
  refine ⟨{ r with collected := c, pending := some ⟨.database, some text⟩, hasDatabase := true },
    ?_, hr.byPlace, hsome.symm, ?_⟩
  · rw [Setting.written, take_plain hr.byPlace hplain, hr.value_eq_place, place, hfree,
      if_neg Bool.false_ne_true, hr.settle]
    rfl
  · rw [Reading.settle]
    simp only [hgive, Except.map]

end Shows
end Reading

/-! ## Places that are filled -/

section Fills

variable {α : Type} {before after : List α} {read : String → Except UsageFault α} {text : String}
  {texts : List String}

/-- Every text is read, and with what is read from them `before` becomes `after`. -/
def Fills (before : List α) (read : String → Except UsageFault α) (texts : List String)
    (after : List α) : Prop :=
  before.map Except.ok ++ texts.map read = after.map Except.ok

theorem Fills.of_forall {β : Type} {l : List β} {write : β → String} {value : β → α}
    (h : ∀ x ∈ l, read (write x) = .ok (value x)) : Fills [] read (l.map write) (l.map value) := by
  rw [Fills, List.map_nil, List.nil_append, List.map_map, List.map_map]
  exact List.map_congr_left h

theorem Fills.nil (h : Fills before read [] after) : before = after := by
  rw [Fills, List.map_nil, List.append_nil] at h
  exact (List.map_inj_right fun _ _ => Except.ok.inj).1 h

theorem Fills.cons (h : Fills before read (text :: texts) after) :
    ∃ v, read text = .ok v ∧ Fills (before ++ [v]) read texts after := by
  obtain ⟨l, l', rfl, hl, hl'⟩ := List.map_eq_append_iff.1 (Eq.symm h)
  cases l' with
  | nil => exact nomatch hl'
  | cons v l' =>
    obtain ⟨hv, hrest⟩ := List.cons.inj hl'
    refine ⟨v, hv.symm, ?_⟩
    rw [Fills, List.map_append, List.map_append, ← hl, ← hrest, List.append_assoc]
    rfl

theorem Fills.nil_option {o o' : Option α} (h : Fills o.toList read [] o'.toList) : o = o' := by
  rw [← Option.head?_toList (o := o), h.nil, Option.head?_toList]

/-- Where there can be one thing only, nothing was before it. -/
theorem Fills.cons_option {o o' : Option α} (h : Fills o.toList read (text :: texts) o'.toList) :
    o = none ∧ ∃ v, read text = .ok v ∧ Fills (some v).toList read texts o'.toList := by
  obtain ⟨v, hv, hrest⟩ := h.cons
  cases o with
  | none => exact ⟨rfl, v, hv, hrest⟩
  | some w =>
    have hlength := congrArg List.length hrest
    cases o' <;> simp at hlength

end Fills

/-! ## All arguments -/

namespace Collected

variable {c c' : Collected} {s : Setting} {ss : List Setting}

/-- With what the settings say, `c` becomes `c'`: each of them can be read, and is said where nothing
was said before. -/
structure LeadsTo (c : Collected) (ss : List Setting) (c' : Collected) : Prop where
  plain : ∀ text ∈ textsFor ss .database, text.toList.head? ≠ some '-'
  database : Fills c.database.toList (readPathValue .database) (textsFor ss .database) c'.database.toList
  outputDirectory : Fills c.outputDirectory.toList (readPathValue .outputDirectory)
    (textsFor ss .outputDirectory) c'.outputDirectory.toList
  filters : Fills c.filters readFilterValue (textsFor ss .filter) c'.filters
  termLength : Fills c.termLength.toList (readIntegerValue .termLength) (textsFor ss .termLength)
    c'.termLength.toList
  attr : Fills c.attr.toList (readIntegerValue .attr) (textsFor ss .attr) c'.attr.toList
  since : Fills c.since.toList .ok (textsFor ss .since) c'.since.toList
  metric : Fills c.metric.toList readMetricValue (textsFor ss .metric) c'.metric.toList
  noQuestion : ∀ s ∈ switchesOf ss, s = .noDump ∨ s = .verbose
  noDump : c.noDump.toNat + (switchesOf ss).count .noDump = c'.noDump.toNat
  verbose : c.verbose.toNat + (switchesOf ss).count .verbose = c'.verbose.toNat

theorem once_none {α : Type} (shown : String) (value : Except UsageFault α) :
    once shown none value = value.map some := rfl

/-- A switch that is turned on for the first time. -/
theorem toNat_add_count_cons {b b' : Bool} {s : Switch} {l : List Switch}
    (h : b.toNat + (s :: l).count s = b'.toNat) : b = false ∧ true.toNat + l.count s = b'.toNat := by
  rw [List.count_cons_self] at h
  have hle : b'.toNat ≤ 1 := Bool.toNat_le b'
  cases b with
  | false => exact ⟨rfl, by rw [← h, Bool.toNat_true, Bool.toNat_false]; omega⟩
  | true =>
    rw [Bool.toNat_true] at h
    omega

namespace LeadsTo

/-- One argument is taken, and what is collected then leads on. -/
theorem step {r : Reading} {c'' : Collected} (h : c.LeadsTo (s :: ss) c'') (hr : r.Shows c) :
    ∃ c', (∃ r', r.take s.written = .ok r' ∧ r'.Shows c') ∧ c'.LeadsTo ss c'' := by
  cases s with
  | value a text =>
    cases a with
    | database =>
      obtain ⟨hnone, v, hread, hrest⟩ := h.database.cons_option
      obtain ⟨hplain, hothers⟩ := List.forall_mem_cons.1 h.plain
      refine ⟨{ c with database := some v }, hr.database hplain hnone ?_ rfl,
        { h with plain := hothers, database := hrest }⟩
      rw [give, hnone, once_none, hread]
      rfl
    | outputDirectory =>
      obtain ⟨hnone, v, hread, hrest⟩ := h.outputDirectory.cons_option
      refine ⟨{ c with outputDirectory := some v }, hr.value (by decide) ?_ rfl,
        { h with outputDirectory := hrest }⟩
      rw [give, hnone, once_none, hread]
      rfl
    | filter =>
      obtain ⟨t, hread, hrest⟩ := h.filters.cons
      refine ⟨{ c with filters := c.filters ++ [t] }, hr.value (by decide) ?_ rfl,
        { h with filters := hrest }⟩
      rw [give, hread]
      rfl
    | termLength =>
      obtain ⟨hnone, v, hread, hrest⟩ := h.termLength.cons_option
      refine ⟨{ c with termLength := some v }, hr.value (by decide) ?_ rfl,
        { h with termLength := hrest }⟩
      rw [give, hnone, once_none, hread]
      rfl
    | attr =>
      obtain ⟨hnone, v, hread, hrest⟩ := h.attr.cons_option
      refine ⟨{ c with attr := some v }, hr.value (by decide) ?_ rfl, { h with attr := hrest }⟩
      rw [give, hnone, once_none, hread]
      rfl
    | since =>
      obtain ⟨hnone, v, hread, hrest⟩ := h.since.cons_option
      obtain rfl := Except.ok.inj hread
      refine ⟨{ c with since := some text }, hr.value (by decide) ?_ rfl, { h with since := hrest }⟩
      rw [give, hnone, once_none]
      rfl
    | metric =>
      obtain ⟨hnone, v, hread, hrest⟩ := h.metric.cons_option
      refine ⟨{ c with metric := some v }, hr.value (by decide) ?_ rfl, { h with metric := hrest }⟩
      rw [give, hnone, once_none, hread]
      rfl
  | switch s =>
    obtain ⟨hswitch, hothers⟩ := List.forall_mem_cons.1 h.noQuestion
    rcases hswitch with rfl | rfl
    · obtain ⟨hoff, hrest⟩ := toNat_add_count_cons h.noDump
      refine ⟨{ c with noDump := true }, hr.switch ?_ rfl,
        { h with noQuestion := hothers, noDump := hrest }⟩
      rw [turnOn, hoff, if_neg Bool.false_ne_true]
    · obtain ⟨hoff, hrest⟩ := toNat_add_count_cons h.verbose
      refine ⟨{ c with verbose := true }, hr.switch ?_ rfl,
        { h with noQuestion := hothers, verbose := hrest }⟩
      rw [turnOn, hoff, if_neg Bool.false_ne_true]

theorem eq_of_nil (h : c.LeadsTo [] c') : c = c' := by
  have htoNat {b b' : Bool} (hb : b.toNat = b'.toNat) : b = b' := by
    cases b <;> cases b' <;> first | rfl | exact nomatch hb
  cases c
  cases c'
  rw [mk.injEq]
  exact ⟨h.database.nil_option, h.outputDirectory.nil_option, h.filters.nil, h.termLength.nil_option,
    h.attr.nil_option, h.since.nil_option, h.metric.nil_option, htoNat h.noDump, htoNat h.verbose⟩

/-- So the arguments are taken to the end. -/
theorem run {r : Reading} (h : c.LeadsTo ss c') (hr : r.Shows c) :
    ∃ r', (ss.map Setting.written).foldlM Reading.take r = .ok r' ∧ r'.Shows c' := by
  induction ss generalizing c r with
  | nil =>
    obtain rfl := h.eq_of_nil
    exact ⟨r, rfl, hr⟩
  | cons s ss ih =>
    obtain ⟨c₁, ⟨r₁, htake, hr₁⟩, hrest⟩ := h.step hr
    obtain ⟨r', hrun, hr'⟩ := ih hrest hr₁
    refine ⟨r', ?_, hr'⟩
    rw [List.map_cons, List.foldlM_cons, htake]
    exact hrun

end LeadsTo
end Collected

/-! ## Wishes -/

theorem readPathValue_of_ne {a : Argument} {text : String} (h : text ≠ "") :
    readPathValue a text = .ok ⟨text⟩ := by
  rw [readPathValue, if_neg (mt String.isEmpty_iff.1 h)]

theorem readIntegerValue_integerText (a : Argument) (n : Int64) :
    readIntegerValue a (integerText n) = .ok n.toInt := by
  rw [readIntegerValue, integerText, String.toList_ofList,
    readInteger_signedDigits n.le_toInt n.toInt_lt]

theorem readFilterValue_text (f : FilterText) : readFilterValue f.text = .ok f.threshold := by
  rw [readFilterValue, f.reads]

theorem readMetricValue_written (m : Metric) : readMetricValue m.written = .ok m := by
  cases m <;> rfl

namespace Wishes

variable {w : Wishes} {ss : List Setting}

/-- What is collected from a command line that says the wishes. -/
def collected (w : Wishes) : Collected where
  database := some ⟨w.database⟩
  outputDirectory := w.outputDirectory.map Path.mk
  filters := w.filters.map FilterText.threshold
  termLength := w.termLength.map Int64.toInt
  attr := w.attr.map Int64.toInt
  since := w.since
  metric := w.metric
  noDump := w.noDump
  verbose := w.verbose

theorem request_collected (w : Wishes) : w.collected.request = .ok w.request := by
  obtain ⟨database, -, -, outputDirectory, -, filters, termLength, attr, since, metric, _, _⟩ := w
  cases outputDirectory <;> cases termLength <;> cases attr <;> rfl

theorem mem_switches {s : Switch} (h : s ∈ w.switches) : s = .noDump ∨ s = .verbose := by
  rcases List.mem_append.1 h with h | h
  · split at h
    · exact .inl (List.mem_singleton.1 h)
    · exact absurd h List.not_mem_nil
  · split at h
    · exact .inr (List.mem_singleton.1 h)
    · exact absurd h List.not_mem_nil

theorem count_noDump (w : Wishes) : w.switches.count .noDump = w.noDump.toNat := by
  cases hdump : w.noDump <;> cases hverbose : w.verbose <;> simp [switches, hdump, hverbose]

theorem count_verbose (w : Wishes) : w.switches.count .verbose = w.verbose.toNat := by
  cases hdump : w.noDump <;> cases hverbose : w.verbose <;> simp [switches, hdump, hverbose]

theorem SaidBy.leadsTo (h : w.SaidBy ss) : ({} : Collected).LeadsTo ss w.collected where
  plain := by
    rw [h.texts]
    exact List.forall_mem_singleton.2 w.database_plain
  database := by
    rw [h.texts]
    exact congrArg (fun value => [value]) (readPathValue_of_ne w.database_ne)
  outputDirectory := by
    have hfills : Fills [] (readPathValue .outputDirectory) (w.outputDirectory.toList.map id)
        (w.outputDirectory.toList.map Path.mk) := by
      refine Fills.of_forall fun text htext => readPathValue_of_ne ?_
      rintro rfl
      exact w.outputDirectory_ne (Option.mem_toList.1 htext)
    rw [h.texts, collected, Option.toList_map]
    rwa [List.map_id] at hfills
  filters := by
    rw [h.texts]
    exact Fills.of_forall fun f _ => readFilterValue_text f
  termLength := by
    rw [h.texts, collected, Option.toList_map]
    exact Fills.of_forall fun n _ => readIntegerValue_integerText .termLength n
  attr := by
    rw [h.texts, collected, Option.toList_map]
    exact Fills.of_forall fun n _ => readIntegerValue_integerText .attr n
  since := by
    rw [h.texts]
    exact List.nil_append _
  metric := by
    have hfills : Fills [] readMetricValue (w.metric.toList.map Metric.written) (w.metric.toList.map id) :=
      Fills.of_forall fun m _ => readMetricValue_written m
    rw [h.texts]
    rwa [List.map_id] at hfills
  noQuestion := fun s hs => mem_switches (h.switches.mem_iff.1 hs)
  noDump := by
    rw [h.switches.count_eq, w.count_noDump]
    exact Nat.zero_add _
  verbose := by
    rw [h.switches.count_eq, w.count_verbose]
    exact Nat.zero_add _

end Wishes

/-- The usual thresholds are those of these texts. -/
theorem Threshold.map_ok_defaults :
    Threshold.defaults.map Except.ok = ["0.1:5", "0.075:4", "0.05:3"].map readThreshold := by
  decide +kernel

/-- **A command line is read as what it was written from, in any order.**  Its arguments can be mixed
freely, as long as the filters keep their order.  What was left out has its usual value.  The thresholds
are those of the filters; where there are no filters they are a tenth for five years, three fortieths for
four and a twentieth for three, as they are written. -/
theorem readArguments_written {w : Wishes} {ss : List Setting} (h : w.SaidBy ss) :
    readArguments (ss.map Setting.written) = .ok w.request ∧
    (w.filters ≠ [] → w.request.thresholds = w.filters.map FilterText.threshold) ∧
    (w.filters = [] → w.request.thresholds =
      [⟨.ofBits 0x3FB999999999999A, 5, by decide, by decide, by decide⟩,
        ⟨.ofBits 0x3FB3333333333333, 4, by decide, by decide, by decide⟩,
        ⟨.ofBits 0x3FA999999999999A, 3, by decide, by decide, by decide⟩] ∧
      w.request.thresholds.map Except.ok = ["0.1:5", "0.075:4", "0.05:3"].map readThreshold) := by
  refine ⟨?_, fun hfilters => ?_, fun hfilters => ?_⟩
  · obtain ⟨r, hrun, hr⟩ := h.leadsTo.run Reading.shows_start
    rw [readArguments, hrun]
    show (r.settle >>= fun r => r.collected.request) = _
    rw [hr.settle]
    exact w.request_collected
  · rw [Request.thresholds, Wishes.request, List.isEmpty_map, if_neg]
    rwa [List.isEmpty_iff]
  · have hdefaults : w.request.thresholds = Threshold.defaults := by
      rw [Request.thresholds, Wishes.request, hfilters]
      rfl
    exact ⟨hdefaults, hdefaults ▸ Threshold.map_ok_defaults⟩

/-- Two filters among other options, a negative number, and values that look like more than they are; and
a command line without any filter. -/
theorem readArguments_written_mixed :
    let half : Threshold := ⟨.ofBits 0x3FE0000000000000, 4, by decide, by decide, by decide⟩
    let quarter : Threshold := ⟨.ofBits 0x3FD0000000000000, 3, by decide, by decide, by decide⟩
    let args := ["--filter= .5 :4", "--no-dump", "--attr=-7", "a=b.db", "--filter=0.25:3",
      "--since=x = y", "--output-dir=--verbose"]
    let r : Request := {
      database := ⟨"a=b.db"⟩, outputDirectory := ⟨"--verbose"⟩, filters := [half, quarter], attr := -7
      since := "x = y", noDump := true }
    let plain : Request := { database := ⟨"e.db"⟩, metric := .hits }
    readArguments args = .ok r ∧ r.thresholds = [half, quarter] ∧
    readArguments ["--metric=hits", "e.db"] = .ok plain ∧
    plain.thresholds.map Except.ok = ["0.1:5", "0.075:4", "0.05:3"].map readThreshold ∧
    plain.thresholds.map Threshold.years = [5, 4, 3] := by
  intro half quarter args r plain
  let w : Wishes := {
    database := "a=b.db"
    database_ne := by decide
    database_plain := by decide
    outputDirectory := some "--verbose"
    outputDirectory_ne := by decide
    filters := [⟨" .5 :4", half, by decide +kernel⟩, ⟨"0.25:3", quarter, by decide +kernel⟩]
    termLength := none
    attr := some (-7)
    since := some "x = y"
    metric := none
    noDump := true
    verbose := false }
  let ss : List Setting := [.value .filter " .5 :4", .switch .noDump, .value .attr "-7",
    .value .database "a=b.db", .value .filter "0.25:3", .value .since "x = y",
    .value .outputDirectory "--verbose"]
  have hsaid : w.SaidBy ss := ⟨fun a => by cases a <;> decide, List.Perm.refl _⟩
  have hargs : ss.map Setting.written = args := by decide
  have hrequest : w.request = r := rfl
  obtain ⟨hread, hthresholds, -⟩ := readArguments_written hsaid
  rw [hargs, hrequest] at hread
  let w' : Wishes := {
    database := "e.db"
    database_ne := by decide
    database_plain := by decide
    outputDirectory := none
    outputDirectory_ne := nofun
    filters := []
    termLength := none
    attr := none
    since := none
    metric := some .hits
    noDump := false
    verbose := false }
  let ss' : List Setting := [.value .metric "hits", .value .database "e.db"]
  have hsaid' : w'.SaidBy ss' := ⟨fun a => by cases a <;> decide, List.Perm.refl _⟩
  have hargs' : ss'.map Setting.written = ["--metric=hits", "e.db"] := by decide
  have hrequest' : w'.request = plain := rfl
  obtain ⟨hread', -, hdefaults⟩ := readArguments_written hsaid'
  rw [hargs', hrequest'] at hread'
  obtain ⟨hlist, htexts⟩ := hdefaults rfl
  rw [hrequest'] at hlist htexts
  exact ⟨hread, hthresholds (List.cons_ne_nil _ _), hread', htexts, by rw [hlist]; rfl⟩

end ShareStreaks
