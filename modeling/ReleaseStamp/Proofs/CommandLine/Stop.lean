import ReleaseStamp.Proofs.CommandLine.Grammar
import ReleaseStamp.Proofs.CommandLine.Headline
/-!
# What ends a reading

An argument that cannot be read ends the reading where it stands: nothing behind it is looked at.
Most such arguments end it whatever stands before them, and the others as soon as what they name has
been named before (`Stops`).  How the reading ends is told by the argument alone (`Stops.unique`),
and so is what is told of it first (`read_append_of_stops`).

What stands before is cut into items.  All that may be pending after them is a value that is met,
and whatever comes next settles it, so the items may be set aside (`exists_settled_of_read`).
-/
namespace ReleaseStamp.CommandLine

open Terminal (isShown strip)

/-! ## What has been named -/

/-- Whether the argument names the switch, with a value joined to it or without. -/
def Switch.IsNamedBy (s : Switch) (arg : Text) : Prop :=
  arg = s.longName ∨ (∃ v, arg = s.longName ++ '=' :: v) ∨
    ∃ f, s = .flag f ∧ arg = ['-', f.letter]

def Names (args : List Text) (s : Switch) : Prop := ∃ arg ∈ args, s.IsNamedBy arg

def Token.switch? : Token → Option Switch
  | .long name _ => Switch.ofName? name
  | .cluster c [] => (Flag.ofLetter? c).map .flag
  | _ => none

theorem Switch.IsNamedBy.switch?_eq {s : Switch} {arg : Text} (h : s.IsNamedBy arg) :
    (Token.ofArgument arg).switch? = some s := by
  rcases h with rfl | ⟨v, rfl⟩ | ⟨f, rfl, rfl⟩
  · rw [Token.ofArgument_longName]
    exact (Switch.ofName?_eq_some_iff s.name s).2 rfl
  · rw [Token.ofArgument_longName_append]
    exact (Switch.ofName?_eq_some_iff s.name s).2 rfl
  · rw [Token.ofArgument_letter, Token.switch?, (Flag.ofLetter?_eq_some_iff f.letter f).2 rfl]
    rfl

/-- An item names what it is a wish for, and its value names nothing. -/
theorem Item.isNamedBy_or {i : Item} (hi : i.IsLegible) {arg : Text} (h : arg ∈ i.args) :
    i.wish.switch.IsNamedBy arg ∨ ∃ t, Token.ofArgument arg = .word t := by
  cases i with
  | joined p v =>
    obtain rfl := List.mem_singleton.1 h
    exact .inl (.inr (.inl ⟨v, rfl⟩))
  | apart p v =>
    obtain rfl | h := List.mem_cons.1 h
    · exact .inl (.inl rfl)
    · obtain rfl := List.mem_singleton.1 h
      exact .inr ⟨arg, Token.ofArgument_of_word hi⟩
  | dryRunName => exact .inl (.inl (List.mem_singleton.1 h))
  | dryRunLetter => exact .inl (.inr (.inr ⟨.dryRun, rfl, List.mem_singleton.1 h⟩))

theorem Item.switch_eq_of_isNamedBy {i : Item} (hi : i.IsLegible) {arg : Text} (h : arg ∈ i.args)
    {s : Switch} (hs : s.IsNamedBy arg) : i.wish.switch = s := by
  have hs := hs.switch?_eq
  obtain hi | ⟨t, ht⟩ := isNamedBy_or hi h
  · exact Option.some.inj (hi.switch?_eq.symm.trans hs)
  · rw [ht] at hs
    cases hs

/-- **What was read may be set aside**, if it held no escape: it has given what it named. -/
theorem exists_settled_of_read {pre : List Text} {job : Job} (h : read pre = .ok job)
    (he : "--".toList ∉ pre) :
    ∃ S : Settings, (∀ s, Names pre s → S.Gives s) ∧
      ∀ args, read (pre ++ args) = ((State.settled S).readAll args).map Settings.job := by
  obtain ⟨S, hall, -⟩ := map_eq_ok_iff.1 h
  obtain ⟨items, hl, rfl | rfl, hg⟩ := State.exists_items_of_readAll hall
  · refine ⟨S, ?_, fun args => congrArg (·.map Settings.job) (State.readAll_items hl hg args)⟩
    rintro s ⟨arg, harg, hs⟩
    obtain ⟨i, hi, harg⟩ := List.mem_flatMap.1 harg
    refine ⟨i.wish, Item.switch_eq_of_isNamedBy (hl i hi) harg hs, ?_⟩
    exact (Settings.holds_of_grantAll hg i.wish).2 (.inr (List.mem_map_of_mem hi))
  · exact absurd (List.mem_append_right _ List.mem_cons_self) he

/-! ## Arguments that end the reading -/

/-- Whether the argument is the flag, by its name or its letter. -/
def Flag.IsSpelled (f : Flag) (arg : Text) : Prop :=
  arg = (Switch.flag f).longName ∨ arg = ['-', f.letter]

/-- The arguments that end a reading, and how they end it.  That a switch is repeated can only be
said of one that has been named before. -/
inductive Stops (named : Switch → Prop) : Text → Halt → Prop where
  | word {t : Text} (h : t = ['-'] ∨ t.head? ≠ some '-') :
      Stops named t (.refused (.unknownArgument t))
  | name {name : Text} (hne : name ≠ []) (hq : '=' ∉ name) (h : ∀ s : Switch, s.name ≠ name) :
      Stops named ("--".toList ++ name) (.refused (.unknownArgument ("--".toList ++ name)))
  | nameValue {name : Text} (hne : name ≠ []) (hq : '=' ∉ name) (h : ∀ s : Switch, s.name ≠ name)
      (v : Text) : Stops named ("--".toList ++ (name ++ '=' :: v))
        (.refused (.unknownArgument ("--".toList ++ name)))
  | letter {c : Char} (hc : c ≠ '-') (h : ∀ f : Flag, f.letter ≠ c) :
      Stops named ['-', c] (.refused (.unknownArgument ['-', c]))
  | help {t : Text} (h : Flag.help.IsSpelled t) : Stops named t .help
  | version {t : Text} (h : Flag.version.IsSpelled t) : Stops named t .version
  | flagValue (f : Flag) (v : Text) :
      Stops named ((Switch.flag f).longName ++ '=' :: v) (.refused (.unexpectedValue f v))
  | dryRunAgain {t : Text} (h : Flag.dryRun.IsSpelled t) (hn : named (.flag .dryRun)) :
      Stops named t (.refused (.repeated (.flag .dryRun)))
  | valueAgain {p : Parameter} (hn : named (.parameter p)) {v : Text} (hv : v ≠ []) :
      Stops named ((Switch.parameter p).longName ++ '=' :: v) (.refused (.repeated (.parameter p)))

theorem State.read_of_isSpelled {f : Flag} {t : Text} (h : f.IsSpelled t) (s : State) :
    s.read (Token.ofArgument t) = s.raise f := by
  rcases h with rfl | rfl
  · have hname := (Switch.ofName?_eq_some_iff _ (.flag f)).2 rfl
    rw [Token.ofArgument_longName]
    simp only [read, hname]
  · have hletter := (Flag.ofLetter?_eq_some_iff _ f).2 rfl
    rw [Token.ofArgument_letter]
    simp only [read, raiseLetters, hletter]
    cases s.raise f <;> rfl

theorem State.read_of_unknown {name : Text} (h : ∀ s : Switch, s.name ≠ name)
    (value? : Option Text) (s : State) :
    s.read (.long name value?) = .error (.refused (.unknownArgument ("--".toList ++ name))) := by
  have hname : Switch.ofName? name = none :=
    Option.eq_none_iff_forall_ne_some.2 fun s hs => h s ((Switch.ofName?_eq_some_iff name s).1 hs)
  simp only [read, hname]
  rfl

namespace Stops

variable {named named' : Switch → Prop} {t : Text} {halt halt' : Halt}

/-- **The argument ends the reading at once**, if what has been named is given. -/
theorem read_eq (h : Stops named t halt) {S : Settings}
    (hS : ∀ w : Wish, named w.switch → S.Gives w.switch) :
    (State.settled S).read (Token.ofArgument t) = .error halt := by
  -- nothing is pending, so the argument is told by its token and by what has been given
  have hsettle := State.settle_settled S
  cases h with
  | word h => rw [Token.ofArgument_of_word h, State.read_word_of_settle hsettle]
  | @name name hne hq h =>
    have ht : Token.ofArgument ("--".toList ++ name) = .long name none :=
      Token.ofArgument_name hne hq
    rw [ht, State.read_of_unknown h]
  | @nameValue name hne hq h v =>
    have ht : Token.ofArgument ("--".toList ++ (name ++ '=' :: v)) = .long name (some v) :=
      Token.ofArgument_name_append hq v
    rw [ht, State.read_of_unknown h]
  | @letter c hc h =>
    have hletter : Flag.ofLetter? c = none :=
      Option.eq_none_iff_forall_ne_some.2 fun f hf => h f ((Flag.ofLetter?_eq_some_iff c f).1 hf)
    rw [Token.ofArgument_cluster hc]
    simp only [State.read, State.raiseLetters, hletter]
  | help h => exact State.read_of_isSpelled h _
  | version h => exact State.read_of_isSpelled h _
  | flagValue f v =>
    have hname := (Switch.ofName?_eq_some_iff _ (.flag f)).2 rfl
    rw [Token.ofArgument_longName_append]
    simp only [State.read, hname]
  | dryRunAgain h hn =>
    have hgiven := Settings.gives_dryRun_iff.1 (hS .dryRun hn)
    rw [State.read_of_isSpelled h, State.raise_of_settle hsettle, Settings.raise, if_pos hgiven]
    rfl
  | @valueAgain p hn v hv =>
    have hname := (Switch.ofName?_eq_some_iff _ (.parameter p)).2 rfl
    have hgiven := (Settings.gives_parameter_iff p).1 (hS (.value p v) hn)
    rw [Token.ofArgument_longName_append]
    simp only [State.read, hname]
    rw [State.give_of_settle hsettle, Settings.give, if_pos hgiven]
    rfl

/-- How the reading ends is told by the argument, whatever has been named. -/
theorem unique (h : Stops named t halt) (h' : Stops named' t halt') : halt = halt' := by
  -- where all is given, both end it
  have hS : ∀ w : Wish, Settings.Gives ⟨some [], some [], some [], true⟩ w.switch := fun w => by
    cases w with
    | value p v => exact (Settings.gives_parameter_iff p).2 (by cases p <;> rfl)
    | dryRun => exact Settings.gives_dryRun_iff.2 rfl
  have hread := h.read_eq fun w _ => hS w
  rw [h'.read_eq fun w _ => hS w] at hread
  exact (Except.error.inj hread).symm

end Stops

/-- **The first bad argument decides.**  What stands before it can be read and holds no escape, and
has a say only in what has been named; what stands behind it has none.  A refusal names the argument
or the switch in its first line, as a terminal shows it, and with all its characters if these are
plain; the help and the version are told in full. -/
theorem read_append_of_stops {pre : List Text} {job : Job} {t : Text} {halt : Halt}
    (hread : read pre = .ok job) (hescape : "--".toList ∉ pre) (h : Stops (Names pre) t halt) :
    (∀ rest, read (pre ++ t :: rest) = .error halt) ∧
      (∀ named halt', Stops named t halt' → halt' = halt) ∧
      (∀ r, halt = .refused r → r.headline = Text.firstLine (r.line strip) ∧
        ((∀ c ∈ r.line id, isShown c = true ∧ c ≠ '\n') → r.headline = r.line id)) ∧
      (halt = .help → (help defaultWidth).render false = helpText) ∧
      (halt = .version → versionText = "manifest-bump 0.1.0\n".toList) := by
  obtain ⟨S, hnamed, hrest⟩ := exists_settled_of_read hread hescape
  have hstop := h.read_eq fun w => hnamed w.switch
  have he : Token.ofArgument t ≠ .escape := fun he => by
    rw [he] at hstop
    cases hstop
  refine ⟨fun rest => ?_, fun _ _ h' => h'.unique h, fun r _ => ?_, fun _ => render_help,
    fun _ => by decide⟩
  · rw [hrest, State.readAll_cons he, hstop]
    rfl
  · exact ⟨r.headline_eq, Refusal.headline_eq_line⟩

/-- The tag is asked for again after another item. -/
theorem read_append_of_stops_again :
    let pre := ["--tag".toList, "-".toList, "-n".toList]
    let r := Refusal.repeated (.parameter .tag)
    read pre = .ok ⟨⟨none, some ['-']⟩, Job.defaultPath, true⟩ ∧ "--".toList ∉ pre ∧
      Stops (Names pre) "--tag=x".toList (.refused r) ∧
      (∀ rest, read (pre ++ "--tag=x".toList :: rest) = .error (.refused r)) ∧
      r.headline = "error: the argument '--tag <TAG>' cannot be used multiple times".toList := by
  intro pre r
  have hread : read pre = .ok ⟨⟨none, some ['-']⟩, Job.defaultPath, true⟩ := rfl
  have hescape : "--".toList ∉ pre := by decide
  have hnamed : Names pre (.parameter .tag) := ⟨"--tag".toList, List.mem_cons_self, .inl rfl⟩
  have hstops : Stops (Names pre) "--tag=x".toList (.refused r) :=
    .valueAgain hnamed (v := ['x']) (by decide)
  obtain ⟨herror, -, hline, -⟩ := read_append_of_stops hread hescape hstops
  refine ⟨hread, hescape, hstops, herror, ((hline r rfl).2 ?_).trans (by decide)⟩
  exact fun c hc => by
    have hplain : (r.line id).all (fun c => isShown c && c != '\n') = true := by decide
    simpa using List.all_eq_true.1 hplain c hc

end ReleaseStamp.CommandLine
