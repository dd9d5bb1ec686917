import ReleaseStamp.Proofs.CommandLine.Item
/-!
# What command lines are read

A command line is read exactly if it is spelled from admitted items (`read_eq_ok_iff`).  In the one
direction the items are read one after another (`State.readAll_items`); in the other the arguments
are cut into items from the left, the first of them being read off the first argument or two
(`State.exists_item_of_readAll`).

A value that stands apart is pending until the argument after it is read, and so are faults of it.
But where the reading goes on to the end it goes on as if each parameter had been settled as soon as
its value was met (`State.readAll_of_settle`), and so items can be counted between states in which
nothing is pending.
-/
namespace ReleaseStamp.CommandLine

namespace State

section

variable {s s' : State} {S S' : Settings} {token : Token}

/-- The state in which nothing is pending. -/
def settled (S : Settings) : State := ⟨S, none⟩

@[simp] theorem settle_settled (S : Settings) : (settled S).settle = .ok S := rfl

/-! ## One argument -/

theorem hold_of_settle (h : s.settle = .ok S) (p : Parameter) :
    s.hold p = .ok ⟨S, some ⟨p, none⟩⟩ := by
  rw [hold, h]
  rfl

theorem give_of_settle (h : s.settle = .ok S) (p : Parameter) (v : Text) :
    s.give p v = (S.give p v).map settled := by
  rw [give, h]
  change (S.give p v).bind (fun given => .ok (settled given)) = (S.give p v).map settled
  cases S.give p v <;> rfl

theorem raise_of_settle (h : s.settle = .ok S) (f : Flag) :
    s.raise f = (S.raise f).map settled := by
  rw [raise, h]
  change (S.raise f).bind (fun raised => .ok (settled raised)) = (S.raise f).map settled
  cases S.raise f <;> rfl

theorem read_word_of_settle (h : s.settle = .ok S) (t : Text) :
    s.read (.word t) = .error (.refused (.unknownArgument t)) := by
  simp only [read]
  split
  · rename_i p hp
    rw [settle, hp] at h
    cases h
  · rfl

/-- What is pending may as well have been settled before. -/
theorem read_of_settle (h : s.settle = .ok S) (he : token ≠ .escape) :
    s.read token = (settled S).read token := by
  cases token with
  | escape => exact absurd rfl he
  | long name value? =>
    simp only [read, hold_of_settle h, give_of_settle h, raise_of_settle h,
      hold_of_settle (settle_settled S), give_of_settle (settle_settled S),
      raise_of_settle (settle_settled S)]
  | cluster c letters =>
    simp only [read, raiseLetters, raise_of_settle h, raise_of_settle (settle_settled S)]
  | word t => rw [read_word_of_settle h, read_word_of_settle (settle_settled S)]

/-- Whatever is read settles what is pending, unless it is the value that is waited for. -/
theorem exists_settle_of_read (h : s.read token = .ok s') (he : token ≠ .escape)
    (hw : ∀ t, token ≠ .word t) : ∃ S, s.settle = .ok S := by
  cases hs : s.settle with
  | ok S => exact ⟨S, rfl⟩
  | error halt =>
    have hhold : ∀ p, s.hold p = .error halt := fun p => by rw [hold, hs]; rfl
    have hgive : ∀ p v, s.give p v = .error halt := fun p v => by rw [give, hs]; rfl
    have hraise : ∀ f, s.raise f = .error halt := fun f => by rw [raise, hs]; rfl
    cases token with
    | escape => exact absurd rfl he
    | word t => exact absurd rfl (hw t)
    | long name value? =>
      simp only [read, hhold, hgive, hraise] at h
      split at h <;> cases h
    | cluster c letters =>
      simp only [read, raiseLetters, hraise] at h
      split at h <;> cases h

theorem exists_grant_of_raise {f : Flag} (h : (settled S).raise f = .ok s') :
    f = .dryRun ∧ ∃ S', S.grant .dryRun = .ok S' ∧ S'.dryRun = true ∧ s' = settled S' := by
  rw [raise_of_settle (settle_settled S), map_eq_ok_iff] at h
  obtain ⟨S', hr, rfl⟩ := h
  obtain ⟨rfl, -, rfl⟩ := (Settings.raise_eq_ok_iff f).1 hr
  exact ⟨rfl, _, hr, rfl, rfl⟩

/-- The only letter that can be read is that of the dry run, and once. -/
theorem exists_grant_of_raiseLetters {c : Char} {letters : List Char}
    (h : (settled S).raiseLetters (c :: letters) = .ok s') :
    c = Flag.dryRun.letter ∧ ∃ S', S.grant .dryRun = .ok S' ∧ S'.dryRun = true ∧
      (settled S').raiseLetters letters = .ok s' := by
  rw [raiseLetters] at h
  cases hc : Flag.ofLetter? c with
  | none => rw [hc] at h; cases h
  | some f =>
    rw [hc] at h
    obtain ⟨s₁, hr, h⟩ := bind_eq_ok_iff.1 h
    obtain ⟨rfl, S', hg, hd, rfl⟩ := exists_grant_of_raise hr
    exact ⟨((Flag.ofLetter?_eq_some_iff c _).1 hc).symm, S', hg, hd, h⟩

/-- All that can be read where nothing is pending. -/
inductive Reads (S : Settings) : Token → State → Prop where
  | escape : Reads S .escape (settled S)
  | hold (p : Parameter) : Reads S (.long p.name none) ⟨S, some ⟨p, none⟩⟩
  | give {p : Parameter} {v : Text} {S' : Settings} (h : S.grant (.value p v) = .ok S') :
      Reads S (.long p.name (some v)) (settled S')
  | name {S' : Settings} (h : S.grant .dryRun = .ok S') :
      Reads S (.long Flag.dryRun.name none) (settled S')
  | letter {S' : Settings} (h : S.grant .dryRun = .ok S') :
      Reads S (.cluster Flag.dryRun.letter []) (settled S')

theorem reads_of_read (h : (settled S).read token = .ok s') : Reads S token s' := by
  cases token with
  | escape =>
    cases h
    exact .escape
  | word t => cases h
  | cluster c letters =>
    obtain ⟨rfl, S', hg, hd, h⟩ := exists_grant_of_raiseLetters h
    cases letters with
    | nil =>
      cases h
      exact .letter hg
    | cons c letters =>
      -- A further letter would have to be that of the dry run again.
      obtain ⟨-, S'', hg', -⟩ := exists_grant_of_raiseLetters h
      obtain ⟨-, hd', -⟩ := (Settings.raise_eq_ok_iff .dryRun).1 hg'
      rw [hd] at hd'
      cases hd'
  | long name value? =>
    simp only [read] at h
    cases hn : Switch.ofName? name with
    | none => rw [hn] at h; cases h
    | some sw =>
      obtain rfl := (Switch.ofName?_eq_some_iff name sw).1 hn
      rw [hn] at h
      cases sw with
      | parameter p =>
        cases value? with
        | none =>
          cases h
          exact .hold p
        | some v =>
          simp only [give_of_settle (settle_settled S), map_eq_ok_iff] at h
          obtain ⟨S', hg, rfl⟩ := h
          exact .give hg
      | flag f =>
        cases value? with
        | some v => cases h
        | none =>
          obtain ⟨rfl, S', hg, -, rfl⟩ := exists_grant_of_raise h
          exact .name hg

theorem Reads.read_eq (h : Reads S token s') : (settled S).read token = .ok s' := by
  cases h with
  | escape => rfl
  | hold p =>
    have hn := (Switch.ofName?_eq_some_iff p.name (.parameter p)).2 rfl
    simp only [read, hn]
    rfl
  | @give p v S' hg =>
    have hn := (Switch.ofName?_eq_some_iff p.name (.parameter p)).2 rfl
    have hg : S.give p v = .ok S' := hg
    simp only [read, hn, give_of_settle (settle_settled S), hg]
    rfl
  | @name S' hg =>
    have hn := (Switch.ofName?_eq_some_iff Flag.dryRun.name (.flag .dryRun)).2 rfl
    have hg : S.raise .dryRun = .ok S' := hg
    simp only [read, hn, raise_of_settle (settle_settled S), hg]
    rfl
  | @letter S' hg =>
    have hc := (Flag.ofLetter?_eq_some_iff Flag.dryRun.letter .dryRun).2 rfl
    have hg : S.raise .dryRun = .ok S' := hg
    simp only [read, raiseLetters, hc, raise_of_settle (settle_settled S), hg]
    rfl

end

/-! ## An item -/

section

variable {s : State} {S S' T : Settings} {arg : Text} {args rest : List Text} {i : Item}

theorem readAll_cons (h : Token.ofArgument arg ≠ .escape) (s : State) (args : List Text) :
    s.readAll (arg :: args) = (s.read (Token.ofArgument arg)).bind (readAll · args) := by
  rw [readAll.eq_def]
  simp only
  split
  · contradiction
  · rfl

theorem readAll_cons_cases (h : s.readAll (arg :: args) = .ok T) :
    (arg = "--".toList ∧ args = [] ∧ s.settle = .ok T) ∨
      Token.ofArgument arg ≠ .escape ∧
        ∃ s', s.read (Token.ofArgument arg) = .ok s' ∧ s'.readAll args = .ok T := by
  by_cases he : Token.ofArgument arg = .escape
  · obtain rfl : arg = "--".toList := Token.eq_render_of_ofArgument he
    cases args with
    | nil => exact .inl ⟨rfl, rfl, h⟩
    | cons next args => cases h
  · rw [readAll_cons he] at h
    exact .inr ⟨he, bind_eq_ok_iff.1 h⟩

theorem readAll_of_settle (h : s.settle = .ok S) :
    ∀ args, s.readAll args = (settled S).readAll args
  | [] => h
  | arg :: args => by
    by_cases he : Token.ofArgument arg = .escape
    · obtain rfl : arg = "--".toList := Token.eq_render_of_ofArgument he
      cases args with
      | nil => exact h
      | cons next args => rfl
    · rw [readAll_cons he, readAll_cons he, read_of_settle h he]

theorem exists_grant_of_readAll {p : Parameter} {v : Text}
    (h : readAll ⟨S, some ⟨p, some v⟩⟩ args = .ok T) :
    ∃ S', S.grant (.value p v) = .ok S' ∧ (settled S').readAll args = .ok T := by
  have hsettle : ∃ S', settle ⟨S, some ⟨p, some v⟩⟩ = .ok S' := by
    cases args with
    | nil => exact ⟨T, h⟩
    | cons arg args =>
      rcases readAll_cons_cases h with ⟨-, -, hT⟩ | ⟨he, s', hr, -⟩
      · exact ⟨T, hT⟩
      · refine exists_settle_of_read hr he fun t ht => ?_
        rw [ht] at hr
        cases hr
  obtain ⟨S', hS'⟩ := hsettle
  refine ⟨S', hS', ?_⟩
  rw [← readAll_of_settle hS']
  exact h

theorem exists_word_of_readAll {p : Parameter} (h : readAll ⟨S, some ⟨p, none⟩⟩ args = .ok T) :
    ∃ v rest, args = v :: rest ∧ (v = ['-'] ∨ v.head? ≠ some '-') ∧
      readAll ⟨S, some ⟨p, some v⟩⟩ rest = .ok T := by
  cases args with
  | nil => cases h
  | cons arg args =>
    rcases readAll_cons_cases h with ⟨-, -, hT⟩ | ⟨he, s', hr, h⟩
    · cases hT
    · cases ht : Token.ofArgument arg with
      | word t =>
        obtain rfl : arg = t := Token.eq_render_of_ofArgument ht
        rw [ht] at hr
        cases hr
        exact ⟨arg, args, rfl, Token.word_of_ofArgument ht, h⟩
      | _ =>
        obtain ⟨S', hS'⟩ := exists_settle_of_read hr he (by simp [ht])
        cases hS'

theorem Reads.readAll_eq {s' : State} {token : Token} (h : Reads S token s')
    (he : token ≠ .escape) (ht : Token.ofArgument arg = token) (args : List Text) :
    (settled S).readAll (arg :: args) = s'.readAll args := by
  rw [readAll_cons (ht ▸ he), ht, h.read_eq]
  rfl

theorem readAll_word {p : Parameter} {v : Text} (hv : v = ['-'] ∨ v.head? ≠ some '-')
    (args : List Text) :
    readAll ⟨S, some ⟨p, none⟩⟩ (v :: args) = readAll ⟨S, some ⟨p, some v⟩⟩ args := by
  have ht := Token.ofArgument_of_word hv
  rw [readAll_cons (by rw [ht]; nofun), ht]
  rfl

/-- **An item is read as its wish is granted.** -/
theorem readAll_item {i : Item} (hi : i.IsLegible) (h : S.grant i.wish = .ok S')
    (rest : List Text) : (settled S).readAll (i.args ++ rest) = (settled S').readAll rest := by
  cases i with
  | joined p v =>
    exact (Reads.give h).readAll_eq nofun (Token.ofArgument_longName_append (.parameter p) v) rest
  | apart p v =>
    have hsettle : settle ⟨S, some ⟨p, some v⟩⟩ = .ok S' := h
    calc (settled S).readAll ((Switch.parameter p).longName :: v :: rest)
        = readAll ⟨S, some ⟨p, none⟩⟩ (v :: rest) :=
          (Reads.hold p).readAll_eq nofun (Token.ofArgument_longName (.parameter p)) _
      _ = readAll ⟨S, some ⟨p, some v⟩⟩ rest := readAll_word hi rest
      _ = (settled S').readAll rest := readAll_of_settle hsettle rest
  | dryRunName =>
    exact (Reads.name h).readAll_eq nofun (Token.ofArgument_longName (.flag .dryRun)) rest
  | dryRunLetter => exact (Reads.letter h).readAll_eq nofun (Token.ofArgument_letter .dryRun) rest

/-- **What can be read begins with an item**, if there is anything to read but an escape. -/
theorem exists_item_of_readAll (h : (settled S).readAll args = .ok T) :
    (T = S ∧ (args = [] ∨ args = ["--".toList])) ∨
      ∃ (i : Item) (rest : List Text) (S' : Settings), args = i.args ++ rest ∧ i.IsLegible ∧
        S.grant i.wish = .ok S' ∧ (settled S').readAll rest = .ok T := by
  cases args with
  | nil =>
    cases h
    exact .inl ⟨rfl, .inl rfl⟩
  | cons arg args =>
    rcases readAll_cons_cases h with ⟨rfl, rfl, hT⟩ | ⟨he, s', hr, h⟩
    · cases hT
      exact .inl ⟨rfl, .inr rfl⟩
    · have hr := reads_of_read hr
      generalize ht : Token.ofArgument arg = token at hr
      have harg := Token.eq_render_of_ofArgument ht
      right
      cases hr with
      | escape => exact absurd ht he
      | hold p =>
        obtain ⟨v, rest, rfl, hv, h⟩ := exists_word_of_readAll h
        obtain ⟨S', hg, h⟩ := exists_grant_of_readAll h
        exact ⟨.apart p v, rest, S', by rw [harg]; rfl, hv, hg, h⟩
      | @give p v S' hg => exact ⟨.joined p v, args, S', by rw [harg]; rfl, trivial, hg, h⟩
      | @name S' hg => exact ⟨.dryRunName, args, S', by rw [harg]; rfl, trivial, hg, h⟩
      | @letter S' hg => exact ⟨.dryRunLetter, args, S', by rw [harg]; rfl, trivial, hg, h⟩

/-! ## Any number of items -/

theorem readAll_items : ∀ {items : List Item} {S : Settings}, (∀ i ∈ items, i.IsLegible) →
    S.grantAll (items.map Item.wish) = .ok S' → ∀ rest,
      (settled S).readAll (items.flatMap Item.args ++ rest) = (settled S').readAll rest
  | [], S, _, h, rest => by
    cases h
    rfl
  | i :: items, S, hi, h, rest => by
    obtain ⟨S₁, hg, h⟩ := Settings.grantAll_cons_eq_ok_iff.1 h
    obtain ⟨hfirst, hi⟩ := List.forall_mem_cons.1 hi
    rw [List.flatMap_cons, List.append_assoc, readAll_item hfirst hg, readAll_items hi h]

/-- **What can be read is cut into items.** -/
theorem exists_items_of_readAll {args : List Text} {S : Settings}
    (h : (settled S).readAll args = .ok T) :
    ∃ items, (∀ i ∈ items, i.IsLegible) ∧ Spells items args ∧
      S.grantAll (items.map Item.wish) = .ok T := by
  -- On the number of arguments, since an item takes up one or two of them.
  induction hn : args.length using Nat.strongRecOn generalizing args S with
  | ind n ih =>
    rcases exists_item_of_readAll h with ⟨rfl, rfl | rfl⟩ | ⟨i, rest, S', rfl, hi, hg, h⟩
    · exact ⟨[], nofun, .inl rfl, rfl⟩
    · exact ⟨[], nofun, .inr rfl, rfl⟩
    · have hlt : rest.length < n := by
        have hpos := i.length_args_pos
        rw [List.length_append] at hn
        omega
      obtain ⟨items, hl, hs, ha⟩ := ih rest.length hlt h rfl
      refine ⟨i :: items, List.forall_mem_cons.2 ⟨hi, hl⟩, hs.cons i, ?_⟩
      exact Settings.grantAll_cons_eq_ok_iff.2 ⟨S', hg, ha⟩

theorem readAll_of_spells {items : List Item} {S : Settings} (hi : ∀ i ∈ items, i.IsLegible)
    (h : S.grantAll (items.map Item.wish) = .ok S') (hs : Spells items args) :
    (settled S).readAll args = .ok S' := by
  rcases hs with rfl | rfl
  · rw [← List.append_nil (items.flatMap Item.args), readAll_items hi h]
    rfl
  · rw [readAll_items hi h]
    rfl

end

end State

theorem read_eq_ok_iff (args : List Text) (job : Job) :
    read args = .ok job ↔
      ∃ items, Admitted items ∧ Spells items args ∧ job = Wish.job (items.map Item.wish) := by
  have hread : read args = .ok job ↔
      ∃ S, (State.settled .empty).readAll args = .ok S ∧ S.job = job := map_eq_ok_iff
  rw [hread]
  constructor
  · rintro ⟨S, h, rfl⟩
    obtain ⟨items, hl, hs, hg⟩ := State.exists_items_of_readAll h
    exact ⟨items, (admitted_iff items).2 ⟨hl, S, hg⟩, hs, Settings.job_eq_of_grantAll hg⟩
  · rintro ⟨items, ha, hs, rfl⟩
    obtain ⟨hl, S, hg⟩ := (admitted_iff items).1 ha
    exact ⟨S, State.readAll_of_spells hl hg hs, Settings.job_eq_of_grantAll hg⟩

/-- **What command lines are read**: those that are spelled from items, and they are read as the
job that the items wish for.  So neither the order of the items matters nor how each is put. -/
theorem read_eq_ok_iff_spells :
    (∀ args job, read args = .ok job ↔
      ∃ items, Admitted items ∧ Spells items args ∧ job = Wish.job (items.map Item.wish)) ∧
    ∀ items items' args args', Admitted items → Admitted items' →
      Spells items args → Spells items' args' →
        (items.map Item.wish).Perm (items'.map Item.wish) → read args = read args' := by
  refine ⟨read_eq_ok_iff, fun items items' args args' ha ha' hs hs' hp => ?_⟩
  have hnd : ((items.map Item.wish).map Wish.switch).Nodup := by
    rw [List.map_map]
    exact ha.nodup
  have hjob := Wish.job_eq_of_perm hp hnd
  rw [(read_eq_ok_iff args _).2 ⟨items, ha, hs, rfl⟩,
    (read_eq_ok_iff args' _).2 ⟨items', ha', hs', rfl⟩, hjob]

/-- A value that looks like a switch, one that is a lone dash, and an escape in the end. -/
example : read ["--tag=--x=".toList, "-n".toList, "--checksum".toList, "-".toList, "--".toList] =
    .ok ⟨⟨some "-".toList, some "--x=".toList⟩, Job.defaultPath, true⟩ := by
  rfl

end ReleaseStamp.CommandLine
