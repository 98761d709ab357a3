import RecordQuery.CommandLine.Listing
import RecordQuery.Proofs.Failure

/-!
# How many rows are listed

Command lines that ask for the same rows in the same form (`SameListing`) and differ in how many of
them are to be listed come to the same.  Either the program fails, in the same way for all of them,
or it prints the same lines for the same rows, up to a point that depends on the limit alone, and
then the number of all rows (`limits_only_cut`).  The notice that rows were left out follows exactly
if some were.

What decides is what is read of a command line, so it does not matter where on it an option stands.
An option in front of a command line that has nothing to do with it is read beside everything else:
reading goes on as it did without it, to the same end, be it a fault (`readFrom_map`).
-/

namespace RecordQuery.CommandLine

/-! ### Reading beside an option -/

namespace Arguments

/-- The name of the option that an argument has the form of. -/
def optionName? (arg : String) : Option String :=
  match Shape.of arg with
  | .long name _ => some name
  | _ => .none

/-- A change to what has been read that no argument takes notice of but the option `name`. -/
structure Bystander (name : String) (change : Arguments → Arguments) : Prop where
  addOperand : ∀ a value, (change a).addOperand value = (a.addOperand value).map change
  turnOn : ∀ a (s : Switch), s.name ≠ name → (change a).turnOn s = (a.turnOn s).map change
  assign : ∀ a (s : Setting) value, s.name ≠ name →
    (change a).assign s value = (a.assign s value).map change

theorem bind_map {ε α : Type} {x : Except ε α} {f : α → α} {g : α → Except ε α}
    (h : ∀ a, g (f a) = (g a).map f) : x.map f >>= g = (x >>= g).map f := by
  cases x with
  | error e => rfl
  | ok a => exact h a

theorem map_ite {ε α : Type} (f : α → α) (c : Prop) [Decidable c] (e : ε) (a : α) :
    (if c then .error e else .ok a : Except ε α).map f = if c then .error e else .ok (f a) := by
  split <;> rfl

variable {name : String} {change : Arguments → Arguments}

theorem addOperands_map (h : Bystander name change) (a : Arguments) (args : List String) :
    (change a).addOperands args = (a.addOperands args).map change := by
  induction args generalizing a with
  | nil => rfl
  | cons value rest ih =>
    rw [addOperands, addOperands, h.addOperand]
    exact bind_map ih

theorem name_ne_of_find? {ι : Type} {nameOf : ι → String} {options : List ι} {o : ι}
    {arg found : String} {value : Option String} (harg : optionName? arg ≠ some name)
    (hshape : Shape.of arg = .long found value)
    (ho : options.find? (fun o => nameOf o = found) = some o) : nameOf o ≠ name := by
  have hfound : nameOf o = found := by simpa using List.find?_some ho
  intro hname
  apply harg
  rw [optionName?, hshape, ← hfound, hname]

/-- Reading goes on as it did without the change. -/
theorem readFrom_map (h : Bystander name change) (a : Arguments) {args : List String}
    (hargs : ∀ arg ∈ args, optionName? arg ≠ some name) :
    readFrom (change a) args = (readFrom a args).map change := by
  fun_induction readFrom a args with
  | case1 a => rfl
  | case2 a arg rest hshape ih =>
    have hrest := (List.forall_mem_cons.mp hargs).2
    simp only [readFrom, hshape, h.addOperand]
    exact bind_map fun b => ih b hrest
  | case3 a arg rest hshape =>
    simp only [readFrom, hshape]
    exact addOperands_map h a rest
  | case4 a arg rest letter hshape =>
    simp only [readFrom, hshape]
    rfl
  | case5 a arg rest found value hshape s hs ih =>
    obtain ⟨harg, hrest⟩ := List.forall_mem_cons.mp hargs
    simp only [readFrom, hshape, hs, h.assign a s value (name_ne_of_find? harg hshape hs)]
    exact bind_map fun b => ih b hrest
  | case6 a arg rest found value hshape hs =>
    simp only [readFrom, hshape, hs]
    rfl
  | case7 a arg rest hshape =>
    simp only [readFrom, hshape]
    rfl
  | case8 a arg rest hshape hne =>
    simp only [readFrom, hshape]
    rfl
  | case9 a arg rest found hshape hhelp hversion s hs ih =>
    obtain ⟨harg, hrest⟩ := List.forall_mem_cons.mp hargs
    simp only [readFrom, hshape, if_neg hhelp, if_neg hversion, hs,
      h.turnOn a s (name_ne_of_find? harg hshape hs)]
    exact bind_map fun b => ih b hrest
  | case10 a arg found hshape hhelp hversion s hs hswitch =>
    simp only [readFrom, hshape, if_neg hhelp, if_neg hversion, hs, hswitch]
    rfl
  | case11 a arg found hshape hhelp hversion s hs hswitch value rest hvalue ih =>
    obtain ⟨harg, hrest⟩ := List.forall_mem_cons.mp hargs
    simp only [readFrom, hshape, if_neg hhelp, if_neg hversion, hs, hswitch, if_pos hvalue,
      h.assign a s value (name_ne_of_find? harg hshape hs)]
    exact bind_map fun b => ih b (List.forall_mem_cons.mp hrest).2
  | case12 a arg found hshape hhelp hversion s hs hswitch value rest hvalue =>
    simp only [readFrom, hshape, if_neg hhelp, if_neg hversion, hs, hswitch, if_neg hvalue]
    rfl
  | case13 a arg rest found hshape hhelp hversion hs hswitch =>
    simp only [readFrom, hshape, if_neg hhelp, if_neg hversion, hs, hswitch]
    rfl

/-! ### The options that say how many rows are listed -/

/-- What is read with the switch to list all rows on. -/
def allOn (a : Arguments) : Arguments := { a with switches := a.switches ++ [.all] }

/-- What is read with the switch to list all rows off. -/
def allOff (a : Arguments) : Arguments := { a with switches := a.switches.filter (· ≠ .all) }

/-- What is read with another limit, or with none. -/
def withLimit (l : Option Nat) (a : Arguments) : Arguments := { a with limit := l }

theorem bystander_withLimit (l : Option Nat) : Bystander "limit" (withLimit l) where
  addOperand a value := by
    simp only [addOperand, withLimit]
    split
    · split <;> rfl
    · rfl
    · rfl
  turnOn a s _ := by
    rw [turnOn, turnOn, map_ite]
    rfl
  assign a s value hs := by
    cases s with
    | limit => exact absurd rfl hs
    | orderBy =>
      rw [assign, assign, map_ite]
      rfl
    | filter | exclude | timezone =>
      simp only [assign, withLimit]
      split <;> rfl

/-- A change to the switches that touches none but the one to list all rows. -/
theorem bystander_switches (edit : List Switch → List Switch)
    (hmem : ∀ switches, ∀ s ≠ .all, (s ∈ edit switches ↔ s ∈ switches))
    (hcons : ∀ switches, ∀ s ≠ .all, edit (s :: switches) = s :: edit switches) :
    Bystander "all" fun a => { a with switches := edit a.switches } where
  addOperand a value := by
    simp only [addOperand]
    split
    · split <;> rfl
    · rfl
    · rfl
  turnOn a s hs := by
    have hall : s ≠ .all := fun heq => hs (heq ▸ rfl)
    rw [turnOn, turnOn, map_ite]
    simp only [hmem a.switches s hall, hcons a.switches s hall]
  assign a s value _ := by
    cases s with
    | orderBy =>
      rw [assign, assign, map_ite]
    | filter | exclude | limit | timezone =>
      simp only [assign]
      split <;> rfl

theorem bystander_allOn : Bystander "all" allOn := by
  apply bystander_switches fun switches => switches ++ [Switch.all]
  · intro switches s hs
    simp [hs]
  · intro switches s _
    rfl

theorem bystander_allOff : Bystander "all" allOff := by
  apply bystander_switches fun switches => switches.filter (· ≠ Switch.all)
  · intro switches s hs
    simp [hs]
  · intro switches s hs
    simp [hs]

/-- Where the switch is not named it is off. -/
theorem all_notMem_of_read {a : Arguments} {args : List String} (h : read args = .ok a)
    (hargs : ∀ arg ∈ args, optionName? arg ≠ some "all") : .all ∉ a.switches := by
  -- turning it off at the start changes nothing, so neither does turning it off at the end
  have hmap := readFrom_map bystander_allOff none hargs
  have hnone : allOff none = none := rfl
  rw [hnone, ← read, h] at hmap
  have hoff : a = allOff a := Except.ok.inj hmap
  intro hmem
  rw [hoff] at hmem
  simp [allOff] at hmem

/-- Where the limit is not named there is none. -/
theorem limit_of_read {a : Arguments} {args : List String} (h : read args = .ok a)
    (hargs : ∀ arg ∈ args, optionName? arg ≠ some "limit") : a.limit = .none := by
  have hmap := readFrom_map (bystander_withLimit .none) none hargs
  have hnone : withLimit .none none = none := rfl
  rw [hnone, ← read, h] at hmap
  have hoff : a = withLimit .none a := Except.ok.inj hmap
  rw [hoff]
  rfl

theorem read_all_cons {args : List String} (hargs : ∀ arg ∈ args, optionName? arg ≠ some "all") :
    read ("--all" :: args) = (read args).map allOn :=
  readFrom_map bystander_allOn none hargs

/-- The text of a limit is no option. -/
theorem shape_of_limit? {number : String} {n : Nat} (h : limit? number = some n) :
    Shape.of number = .plain := by
  unfold Shape.of
  unfold limit? at h
  split
  · rename_i hchars
    rw [hchars] at h
    cases h
  · rename_i rest hchars
    rw [hchars] at h
    cases h
  · rename_i letter rest hchars
    rw [hchars] at h
    cases h
  · rfl

theorem read_limit_cons {args : List String} (hargs : ∀ arg ∈ args, optionName? arg ≠ some "limit")
    {number : String} {n : Nat} (hnumber : limit? number = some n) :
    read ("--limit" :: number :: args) = (read args).map (withLimit (some n)) := by
  have hshape : Shape.of "--limit" = .long "limit" .none := rfl
  have hswitch : Switch.every.find? (·.name = "limit") = .none := rfl
  have hsetting : Setting.every.find? (·.name = "limit") = some .limit := rfl
  have hplain : (Setting.limit.takesHyphens || decide (Shape.of number = .plain)) = true := by
    simp [shape_of_limit? hnumber]
  have hassign : none.assign .limit number = .ok (withLimit (some n) none) := by
    simp only [assign, none, hnumber, withLimit]
  simp only [read, readFrom, hshape, hswitch, hsetting, hplain, hassign]
  exact readFrom_map (bystander_withLimit (some n)) none hargs

/-- Both ask for the same rows in the same form. -/
structure SameListing (a b : Arguments) : Prop where
  operands : a.operands = b.operands
  filters : a.filters = b.filters
  excludes : a.excludes = b.excludes
  orderBy : a.orderBy = b.orderBy
  zone : a.zone = b.zone
  strict : a.isOn .strict = b.isOn .strict
  style : a.style = b.style

theorem sameListing_withLimit (l : Option Nat) (a : Arguments) : SameListing (withLimit l a) a :=
  ⟨rfl, rfl, rfl, rfl, rfl, rfl, rfl⟩

theorem sameListing_allOn (a : Arguments) : SameListing (allOn a) a := by
  have hon : ∀ s ≠ Switch.all, (allOn a).isOn s = a.isOn s := by
    intro s hs
    simp [isOn, allOn, hs]
  refine ⟨rfl, rfl, rfl, rfl, rfl, hon .strict nofun, ?_⟩
  rw [style, style, hon .cells nofun, hon .json nofun]

/-- The three ask for the same rows in the same form: `a` says nothing on how many of them are to be
listed, `b` says that it be `n` at most, and `c` that it be all of them, whatever else it says. -/
structure DifferInLimit (n : Nat) (a b c : Arguments) : Prop where
  plain_switch : .all ∉ a.switches
  plain_limit : a.limit = .none
  limited_same : SameListing b a
  limited_switch : .all ∉ b.switches
  limited_limit : b.limit = some n
  all_same : SameListing c a
  all_switch : .all ∈ c.switches

end Arguments

/-! ### Listings -/

open Arguments (SameListing DifferInLimit optionName?)

theorem select_congr {a b : Arguments} (h : SameListing a b) (path label text : String) :
    select a path label text = select b path label text := by
  rw [select, select, h.zone, h.strict, h.filters, h.excludes, h.orderBy]

/-- The outcome of a run that prints the lines of some rows, how many there are in all, and notices. -/
def printed (shown : List String) (total : Nat) (notices : List String) : Outcome :=
  ⟨0, unlines (shown ++ "---------------------" ::
    ("Count: " ++ String.ofList (Text.decimal total)) :: notices), ""⟩

/-- The outcome of a run that prints no more than `n` of the rows with these lines. -/
def printedUpTo (n : Nat) (rows : List String) : Outcome :=
  let shown := rows.take n
  printed shown rows.length (if shown.length < rows.length then [notice n] else [])

theorem outcome_lines_none (style : Style) (zone : Offset) (s : RowSet) :
    let rows := s.rows.map (line style zone s.model)
    (⟨0, unlines (lines style zone none s), ""⟩ : Outcome) = printed rows rows.length [] := by
  simp only [lines, printed, RowSet.count, List.length_map]

theorem outcome_lines_some (style : Style) (zone : Offset) (n : Nat) (s : RowSet) :
    (⟨0, unlines (lines style zone (some n) s), ""⟩ : Outcome) =
      printedUpTo n (s.rows.map (line style zone s.model)) := by
  have hcut : (List.take n (s.rows.map (line style zone s.model))).length <
      (s.rows.map (line style zone s.model)).length ↔ n < s.count := by
    rw [List.length_take, List.length_map, RowSet.count]
    omega
  by_cases hn : n < s.count
  · simp only [lines, printedUpTo, if_pos hn, if_pos (hcut.mpr hn)]
    simp only [printed, RowSet.count, RowSet.limit, List.length_map, List.map_take]
  · simp only [lines, printedUpTo, if_neg hn, if_neg (mt hcut.mp hn)]
    simp only [printed, RowSet.count, RowSet.limit, List.length_map, List.map_take]

/-! ### Runs -/

/-- Three runs end alike: they fail in the same way, or print the lines of the same rows, one up to
the number of rows that are listed by default, one up to `n`, and one all of them. -/
def CutAlike (n : Nat) (plain limited all : Outcome) : Prop :=
  (plain.exitCode ≠ 0 ∧ limited = plain ∧ all = plain) ∨
    ∃ rows, plain = printedUpTo 20 rows ∧ limited = printedUpTo n rows ∧
      all = printed rows rows.length []

variable {files : String → Except String String} {args : List String} {a b : Arguments}

theorem run_of_operands_ne (h : Arguments.read args = .ok a)
    (hne : ∀ path label, a.operands ≠ [path, label]) : run args files = ⟨2, "", usage⟩ := by
  -- `hne` leaves only the last case
  simp only [run, h]

/-- What there is to list, before it is cut. -/
def selection (a : Arguments) (path label : String) (files : String → Except String String) :
    Except Failure RowSet :=
  (files path).mapError (.unreadable path) >>= select a path label

theorem listing_eq (a : Arguments) (path label : String)
    (files : String → Except String String) :
    listing a path label files = (selection a path label files).map
      (lines a.style (a.zone.getD Offset.utc) a.listed?) := by
  rw [listing, selection]
  cases (files path).mapError (Failure.unreadable path) with
  | error failure => rfl
  | ok text =>
    simp only [bind, Except.bind]
    cases select a path label text <;> rfl

theorem run_of_operands_eq (h : Arguments.read args = .ok a) {path label : String}
    (hoperands : a.operands = [path, label]) :
    run args files = match selection a path label files with
      | .ok s => ⟨0, unlines (lines a.style (a.zone.getD Offset.utc) a.listed? s), ""⟩
      | .error failure => ⟨1, "", failure.report⟩ := by
  rw [run, h]
  simp only [hoperands, listing_eq]
  cases selection a path label files <;> rfl

/-- Command lines that ask for the same rows in the same form fail alike, or list the same rows, as
many as each of them says. -/
theorem run_of_sameListing (files : String → Except String String) (a : Arguments) :
    (∃ code report, code ≠ 0 ∧ ∀ args b, Arguments.read args = .ok b → SameListing b a →
      run args files = ⟨code, "", report⟩) ∨
    ∃ s : RowSet, ∀ args b, Arguments.read args = .ok b → SameListing b a →
      run args files = ⟨0, unlines (lines a.style (a.zone.getD Offset.utc) b.listed? s), ""⟩ := by
  by_cases hoperands : ∃ path label, a.operands = [path, label]
  · obtain ⟨path, label, hoperands⟩ := hoperands
    have hselection : ∀ b, SameListing b a →
        selection b path label files = selection a path label files := by
      intro b hsame
      rw [selection, selection, funext (select_congr hsame path label)]
    cases hselected : selection a path label files with
    | error failure =>
      refine Or.inl ⟨1, failure.report, nofun, fun args b hb hsame => ?_⟩
      rw [run_of_operands_eq hb (hsame.operands.trans hoperands), hselection b hsame, hselected]
    | ok s =>
      refine Or.inr ⟨s, fun args b hb hsame => ?_⟩
      rw [run_of_operands_eq hb (hsame.operands.trans hoperands), hselection b hsame, hselected,
        hsame.style, hsame.zone]
  · refine Or.inl ⟨2, usage, nofun, fun args b hb hsame => ?_⟩
    refine run_of_operands_ne hb fun path label heq => hoperands ⟨path, label, ?_⟩
    rw [← hsame.operands, heq]

theorem cutAlike_of_differInLimit {plain limited all : List String} {a b c : Arguments} {n : Nat}
    (ha : Arguments.read plain = .ok a) (hb : Arguments.read limited = .ok b)
    (hc : Arguments.read all = .ok c) (h : DifferInLimit n a b c) :
    CutAlike n (run plain files) (run limited files) (run all files) := by
  have hplain : a.listed? = some 20 := by
    simp [Arguments.listed?, Arguments.isOn, h.plain_switch, h.plain_limit, Arguments.defaultLimit]
  have hlimited : b.listed? = some n := by
    simp [Arguments.listed?, Arguments.isOn, h.limited_switch, h.limited_limit]
  have hall : c.listed? = none := by
    simp [Arguments.listed?, Arguments.isOn, h.all_switch]
  have hrefl : SameListing a a := ⟨rfl, rfl, rfl, rfl, rfl, rfl, rfl⟩
  rcases run_of_sameListing files a with ⟨code, report, hcode, hrun⟩ | ⟨s, hrun⟩
  · left
    rw [hrun plain a ha hrefl, hrun limited b hb h.limited_same, hrun all c hc h.all_same]
    exact ⟨hcode, rfl, rfl⟩
  · right
    refine ⟨s.rows.map (line a.style (a.zone.getD Offset.utc) s.model), ?_, ?_, ?_⟩
    · rw [hrun plain a ha hrefl, hplain, outcome_lines_some]
    · rw [hrun limited b hb h.limited_same, hlimited, outcome_lines_some]
    · rw [hrun all c hc h.all_same, hall, outcome_lines_none]

/-- **A limit only cuts the list.**  Of three command lines that ask for the same rows in the same
form, one without a word on how many are to be listed, one with a limit and one with the switch to
list all, all fail in the same way, or the last prints all rows and their number, and the others
print as many of the same lines as 20 or the limit allow, the number of all rows, and a notice exactly
if not all were printed.  Any command line that says nothing on the matter is such a one together with
those that have the limit or the switch in front; if it is faulty so are they. -/
theorem limits_only_cut (files : String → Except String String) :
    (∀ plain limited all a b c n, Arguments.read plain = .ok a → Arguments.read limited = .ok b →
      Arguments.read all = .ok c → DifferInLimit n a b c →
      CutAlike n (run plain files) (run limited files) (run all files)) ∧
    ∀ args number n, (∀ arg ∈ args, optionName? arg ≠ some "all" ∧ optionName? arg ≠ some "limit") →
      Arguments.limit? number = some n →
      (∀ a, Arguments.read args = .ok a →
        CutAlike n (run args files) (run ("--limit" :: number :: args) files)
          (run ("--all" :: args) files)) ∧
      ∀ stop, Arguments.read args = .error stop →
        run ("--limit" :: number :: args) files = run args files ∧
          run ("--all" :: args) files = run args files := by
  refine ⟨fun _ _ _ _ _ _ _ => cutAlike_of_differInLimit, fun args number n hargs hnumber => ?_⟩
  have hlimited := Arguments.read_limit_cons (fun arg harg => (hargs arg harg).2) hnumber
  have hall := Arguments.read_all_cons fun arg harg => (hargs arg harg).1
  constructor
  · intro a ha
    rw [ha] at hlimited hall
    have hswitch := Arguments.all_notMem_of_read ha fun arg harg => (hargs arg harg).1
    have hlimit := Arguments.limit_of_read ha fun arg harg => (hargs arg harg).2
    refine cutAlike_of_differInLimit ha hlimited hall ?_
    exact ⟨hswitch, hlimit, Arguments.sameListing_withLimit _ a, hswitch, rfl,
      Arguments.sameListing_allOn a, by simp [Arguments.allOn]⟩
  · intro stop hstop
    rw [hstop] at hlimited hall
    constructor
    · rw [run, run, hlimited, hstop]
      rfl
    · rw [run, run, hall, hstop]
      rfl

deriving instance DecidableEq for OrderedMap

deriving instance DecidableEq for Arguments

instance decidableEqExcept {ε α : Type} [DecidableEq ε] [DecidableEq α] :
    DecidableEq (Except ε α)
  | .ok a, .ok b => decidable_of_iff (a = b) (Except.ok.injEq a b).symm.to_iff
  | .error d, .error e => decidable_of_iff (d = e) (Except.error.injEq d e).symm.to_iff
  | .ok _, .error _ => isFalse nofun
  | .error _, .ok _ => isFalse nofun

/-- Three rows in descending order: the options in the middle of the command line, with a limit beside
the switch, and in front of it. -/
theorem limits_only_cut_three_rows :
    let files : String → Except String String := fun _ => .ok
      "\x7b\"models\":[[\"t.T\",null,[]]],\"objects\":[[\"t.t\",2],[\"T.t\",7],[\"t.T\",1]]\x7d"
    let plain := ["f.json", "t.t", "--order-by=-id"]
    let limited := ["f.json", "--limit=2", "t.t", "--order-by=-id"]
    let all := ["f.json", "--all", "t.t", "--limit", "1", "--order-by", "-id"]
    let rows := ["T object (7)", "T object (2)", "T object (1)"]
    run plain files = printed rows 3 [] ∧ run limited files = printed (rows.take 2) 3 [notice 2] ∧
      run all files = printed rows 3 [] ∧
      CutAlike 2 (run plain files) (run limited files) (run all files) ∧
      CutAlike 3 (run plain files) (run ("--limit" :: "+03" :: plain) files)
        (run ("--all" :: plain) files) ∧
      run ("--limit" :: "+03" :: plain ++ ["--filter", "id"]) files =
        run (plain ++ ["--filter", "id"]) files := by
  intro files plain limited all rows
  have hplain : Arguments.read plain =
      .ok ⟨["f.json", "t.t"], [], [], [], some "-id", none, none⟩ := by
    decide +kernel
  have hlimited : Arguments.read limited =
      .ok ⟨["f.json", "t.t"], [], [], [], some "-id", some 2, none⟩ := by
    decide +kernel
  have hall : Arguments.read all =
      .ok ⟨["f.json", "t.t"], [.all], [], [], some "-id", some 1, none⟩ := by
    decide +kernel
  have hfaulty : Arguments.read (plain ++ ["--filter", "id"]) = .error .usage := by
    decide +kernel
  have hnumber : Arguments.limit? "+03" = some 3 := by decide +kernel
  have hunnamed : ∀ arg ∈ plain ++ ["--filter", "id"],
      optionName? arg ≠ some "all" ∧ optionName? arg ≠ some "limit" := by
    decide +kernel
  obtain ⟨hanywhere, hfront⟩ := limits_only_cut files
  refine ⟨by decide +kernel, by decide +kernel, by decide +kernel, ?_, ?_, ?_⟩
  · exact hanywhere _ _ _ _ _ _ _ hplain hlimited hall
      ⟨nofun, rfl, ⟨rfl, rfl, rfl, rfl, rfl, rfl, rfl⟩, nofun, rfl,
        ⟨rfl, rfl, rfl, rfl, rfl, rfl, rfl⟩, List.mem_singleton_self _⟩
  · refine (hfront plain "+03" 3 (fun arg harg => hunnamed arg ?_) hnumber).1 _ hplain
    exact List.mem_append_left _ harg
  · exact ((hfront _ "+03" 3 hunnamed hnumber).2 _ hfaulty).1

end RecordQuery.CommandLine
