import BootRom.Proofs.Requests

/-!
# How requests are spelled

The same requests can be written as a command line in many ways: by long names or by letters, with
letters bundled or apart, and with a value joined to its option or as an argument of its own. Here
is the grammar of command lines. It knows no draft in which arguments are taken in, and so nothing
of an option that waits while others are read.

* `Bundled`, `Argument` and `Spelled` are the grammar: of letters in one argument, of one argument,
  and of a command line.
* `bundle_sound` and `bundle_complete`, `options_sound` and `options_complete`: letters and whole
  arguments are taken in exactly if the grammar has them.
* `takeAll_cons_eq_ok_iff` is what can happen to the next argument. `takeAll_settle` does away with
  options that wait although they have met their value.

`takeAll_eq_ok_iff` puts this together: what is taken in is what the grammar spells.
-/

namespace BootRom.Command

/-! ## The grammar -/

/-- The letter of an option with a value. -/
def Setting.letter : Setting → Char
  | .read => 'r'
  | .fileType => 't'
  | .rom => 'o'

/-- Letters bundled in one argument: what they ask for, and the option at their end whose value is
to follow, if there is one. -/
inductive Bundled : List Request → Option Setting → List Char → Prop
  /-- no letters are left -/
  | nil : Bundled [] none []
  /-- a letter asks for more reports -/
  | verbose {asked : List Request} {waiting : Option Setting} {letters : List Char}
    (more : Bundled asked waiting letters) : Bundled (.verbose :: asked) waiting ('v' :: letters)
  /-- a letter asks for a list -/
  | list {asked : List Request} {waiting : Option Setting} {letters : List Char}
    (more : Bundled asked waiting letters) : Bundled (.list :: asked) waiting ('l' :: letters)
  /-- the last letter is that of an option whose value follows -/
  | last (s : Setting) : Bundled [] (some s) [s.letter]
  /-- the value follows the letter directly; an equals sign would not be part of it -/
  | attached (s : Setting) (c : Char) (value : List Char) (no_sign : c ≠ '=') :
    Bundled [.value s (String.ofList (c :: value))] none (s.letter :: c :: value)
  /-- the value follows the letter and an equals sign -/
  | joined (s : Setting) (value : List Char) :
    Bundled [.value s (String.ofList value)] none (s.letter :: '=' :: value)

/-- One argument with options: what it asks for, and the option whose value is to follow, if there
is one. -/
inductive Argument : List Request → Option Setting → String → Prop
  /-- more reports are asked for by name -/
  | verbose : Argument [.verbose] none "--verbose"
  /-- a list is asked for by name -/
  | list : Argument [.list] none "--list"
  /-- the value of an option is joined to its name -/
  | joined (s : Setting) (value : String) : Argument [.value s value] none (s.name ++ "=" ++ value)
  /-- the value of an option follows its name -/
  | named (s : Setting) : Argument [] (some s) s.name
  /-- letters follow a dash -/
  | letters {asked : List Request} {waiting : Option Setting} {letters : List Char}
    (bundled : Bundled asked waiting letters) (some_letter : letters ≠ []) :
    Argument asked waiting (String.ofList ('-' :: letters))

/-- An argument that can be a value: it does not begin with a dash, or has nothing but a dash. -/
def IsPlain (argument : String) : Prop := argument.toList.head? ≠ some '-' ∨ argument = "-"

/-- A command line, from an option on that waits for its value, if one does: what it asks for. -/
inductive Spelled : Option Setting → List Request → List String → Prop
  /-- there are no more arguments -/
  | nil : Spelled none [] []
  /-- two dashes say so -/
  | stop : Spelled none [] ["--"]
  /-- an argument has options -/
  | option {first asked : List Request} {waiting : Option Setting} {argument : String}
    {line : List String} (here : Argument first waiting argument)
    (rest : Spelled waiting asked line) : Spelled none (first ++ asked) (argument :: line)
  /-- an argument is the value that is waited for -/
  | value {s : Setting} {asked : List Request} {value : String} {line : List String}
    (plain : IsPlain value) (rest : Spelled none asked line) :
    Spelled (some s) (.value s value :: asked) (value :: line)

/-! ## Shapes of arguments -/

/-- The long name of an option, without its dashes. -/
def Choice.longName : Choice → String
  | .switch .verbose => "verbose"
  | .switch .list => "list"
  | .switch .help => "help"
  | .setting .read => "read"
  | .setting .fileType => "type"
  | .setting .rom => "rom"

theorem Choice.eq_longName {name : List Char} {c : Choice} (found : ofName name = some c) :
    name = c.longName.toList := by
  suffices same : String.ofList name = c.longName by rw [← same, String.toList_ofList]
  unfold ofName at found
  split at found <;> cases found
  all_goals assumption

theorem Choice.ofLetter_letter (s : Setting) : ofLetter s.letter = some (.setting s) := by
  cases s <;> rfl

/-- The letters of an option. -/
theorem Choice.letter_of_found {letter : Char} {c : Choice} (found : ofLetter letter = some c) :
    match c with
    | .switch .verbose => letter = 'v'
    | .switch .list => letter = 'l'
    | .switch .help => letter = 'h' ∨ letter = '?'
    | .setting s => letter = s.letter := by
  unfold ofLetter at found
  split at found <;> cases found
  all_goals simp [Setting.letter]

theorem bind_eq_ok {ε α β : Type} {x : Except ε α} {f : α → Except ε β} {b : β} :
    (x >>= f) = .ok b ↔ ∃ a, x = .ok a ∧ f a = .ok b := by
  cases x with
  | error e => exact ⟨nofun, nofun⟩
  | ok a => exact ⟨fun h => ⟨a, rfl, h⟩, fun ⟨_, ha, h⟩ => Except.ok.inj ha ▸ h⟩

namespace Draft

variable {d d' d₁ : Draft} {asked first later more : List Request} {waiting : Option Setting}
  {s : Setting} {argument : String} {line : List String} {name letters text : List Char}
  {value : Option (List Char)}

/-- What an argument ends with behind the name of a long option. -/
def joinedTo : Option (List Char) → List Char
  | none => []
  | some value => '=' :: value

/-- Every text is a name, up to the first equals sign, with what is joined to it. -/
theorem exists_name (text : List Char) : ∃ name value, '=' ∉ name ∧ text = name ++ joinedTo value := by
  induction text with
  | nil => exact ⟨[], none, List.not_mem_nil, rfl⟩
  | cons c rest ih =>
    by_cases sign : c = '='
    · exact ⟨[], some rest, List.not_mem_nil, congrArg (· :: rest) sign⟩
    · obtain ⟨name, value, no_sign, split⟩ := ih
      refine ⟨c :: name, value, ?_, congrArg (c :: ·) split⟩
      simp only [List.mem_cons, not_or]
      exact ⟨Ne.symm sign, no_sign⟩

theorem ofLong_append (no_sign : '=' ∉ name) (value : Option (List Char)) :
    Shape.ofLong (name ++ joinedTo value) = .long name value := by
  have all_name : ∀ c ∈ name, (c != '=') = true := by
    intro c member
    simp only [bne_iff_ne]
    rintro rfl
    exact no_sign member
  unfold Shape.ofLong
  rw [List.takeWhile_append_of_pos all_name, List.dropWhile_append_of_pos all_name]
  cases value with
  | none => simp [joinedTo]
  | some value => simp [joinedTo]

/-- What an argument of some shape looks like. -/
theorem shape_spec (chars : List Char) : match Shape.ofArgument chars with
    | .stop => chars = ['-', '-']
    | .long name value => chars = '-' :: '-' :: (name ++ joinedTo value)
    | .letters letters => chars = '-' :: letters ∧ letters ≠ []
    | .plain => chars.head? ≠ some '-' ∨ chars = ['-'] := by
  fun_cases Shape.ofArgument chars with
  | case1 => rfl
  | case2 text _ =>
    obtain ⟨name, value, no_sign, rfl⟩ := exists_name text
    rw [ofLong_append no_sign]
  | case3 => exact ⟨rfl, List.cons_ne_nil _ _⟩
  | case4 _ _ _ no_letter =>
    rcases chars with _ | ⟨c, _ | ⟨letter, rest⟩⟩
    · simp
    · simp [em']
    · left
      simp only [List.head?_cons, ne_eq, Option.some.injEq]
      rintro rfl
      exact no_letter letter rest rfl

theorem shape_of_isPlain (plain : IsPlain argument) :
    Shape.ofArgument argument.toList = .plain := by
  rcases plain with no_dash | rfl
  · generalize argument.toList = chars at no_dash
    fun_cases Shape.ofArgument chars <;> first | rfl | exact absurd rfl no_dash
  · rfl

/-- An argument with letters has the shape of one. -/
theorem shape_of_bundled (bundled : Bundled first waiting letters) (some_letter : letters ≠ []) :
    Shape.ofArgument ('-' :: letters) = .letters letters := by
  cases bundled with
  | nil => exact absurd rfl some_letter
  | verbose => rfl
  | list => rfl
  | last s => cases s <;> rfl
  | attached s => cases s <;> rfl
  | joined s => cases s <;> rfl

/-! ## One argument -/

/-- A draft with an option that waits for its value, if there is one. -/
def awaiting (d : Draft) : Option Setting → Draft
  | none => d
  | some s => { d with waiting := some (s, none) }

/-- Take in an argument with options. -/
def options (argument : String) (d : Draft) : Except UsageError Draft :=
  match Shape.ofArgument argument.toList with
  | .long name value => d.long argument name value
  | .letters letters => bundle argument d letters
  | _ => .error (.unknownArgument argument)

theorem Holds.assign_eq (held : d.Holds asked) (s : Setting) (value : List Char) :
    d.assign s value = d.take (.value s (String.ofList value)) := by
  rw [assign, settle_of_settled held.settled, Draft.take]

theorem Holds.await_eq (held : d.Holds asked) (s : Setting) :
    d.await s = .ok (d.awaiting (some s)) := by
  rw [await, settle_of_settled held.settled, awaiting]

theorem flip_help_ne : d.flip .help ≠ .ok d₁ := by
  unfold flip
  split <;> simp

/-! ### Letters -/

theorem bundle_flag {letter : Char} {f : Switch}
    (found : Choice.ofLetter letter = some (.switch f)) (rest : List Char) :
    bundle argument d (letter :: rest) = (d.flip f >>= (bundle argument · rest)) := by
  simp only [bundle, found]
  cases d.flip f <;> rfl

/-- A letter of a flag is taken in as the request that it stands for. -/
theorem bundle_request_eq_ok_iff {letter : Char} {f : Switch} {r : Request}
    (found : Choice.ofLetter letter = some (.switch f)) (request : d.take r = d.flip f)
    (rest : List Char) : bundle argument d (letter :: rest) = .ok d₁ ↔
      ∃ d₂, d.take r = .ok d₂ ∧ bundle argument d₂ rest = .ok d₁ := by
  rw [bundle_flag found, bind_eq_ok, request]

theorem bundle_last (s : Setting) : bundle argument d [s.letter] = d.await s := by
  rw [bundle, Choice.ofLetter_letter]

theorem bundle_joined (s : Setting) (value : List Char) :
    bundle argument d (s.letter :: '=' :: value) = d.assign s value := by
  rw [bundle, Choice.ofLetter_letter]
  rfl

theorem bundle_attached (s : Setting) {c : Char} (no_sign : c ≠ '=') (value : List Char) :
    bundle argument d (s.letter :: c :: value) = d.assign s (c :: value) := by
  rw [bundle, Choice.ofLetter_letter]
  simp only
  split
  · contradiction
  · rename_i same
    exact absurd (List.cons.inj same).1 no_sign
  · rfl

theorem bundle_sound (held : d.Holds asked) (taken : bundle argument d letters = .ok d₁) :
    ∃ (more : List Request) (waiting : Option Setting) (d' : Draft),
      Bundled more waiting letters ∧ d'.Holds (asked ++ more) ∧ d₁ = d'.awaiting waiting := by
  induction letters generalizing d asked with
  | nil =>
    obtain rfl := Except.ok.inj taken
    exact ⟨[], none, d, .nil, by rwa [List.append_nil], rfl⟩
  | cons letter rest ih =>
    rcases found : Choice.ofLetter letter with _ | ⟨_ | _ | _⟩ | s
    · simp [bundle, found] at taken
    · have is_letter : letter = 'v' := Choice.letter_of_found found
      subst is_letter
      obtain ⟨d₂, here, taken⟩ := (bundle_request_eq_ok_iff (r := .verbose) rfl rfl rest).mp taken
      obtain ⟨more, waiting, d', bundled, held', rfl⟩ := ih (held.take here) taken
      exact ⟨_, waiting, d', .verbose bundled, List.append_cons .. ▸ held', rfl⟩
    · have is_letter : letter = 'l' := Choice.letter_of_found found
      subst is_letter
      obtain ⟨d₂, here, taken⟩ := (bundle_request_eq_ok_iff (r := .list) rfl rfl rest).mp taken
      obtain ⟨more, waiting, d', bundled, held', rfl⟩ := ih (held.take here) taken
      exact ⟨_, waiting, d', .list bundled, List.append_cons .. ▸ held', rfl⟩
    · rw [bundle_flag found] at taken
      obtain ⟨d₂, help, -⟩ := bind_eq_ok.mp taken
      exact absurd help flip_help_ne
    · have is_letter : letter = s.letter := Choice.letter_of_found found
      subst is_letter
      rcases rest with _ | ⟨c, value⟩
      · rw [bundle_last, held.await_eq] at taken
        obtain rfl := Except.ok.inj taken
        exact ⟨[], some s, d, .last s, by rwa [List.append_nil], rfl⟩
      · by_cases sign : c = '='
        · subst sign
          rw [bundle_joined, held.assign_eq] at taken
          exact ⟨_, none, d₁, .joined s value, held.take taken, rfl⟩
        · rw [bundle_attached s sign, held.assign_eq] at taken
          exact ⟨_, none, d₁, .attached s c value sign, held.take taken, rfl⟩

theorem bundle_complete (bundled : Bundled first waiting letters) (held : d.Holds asked)
    (held₁ : d₁.Holds (asked ++ (first ++ later))) :
    ∃ d' : Draft, bundle argument d letters = .ok (d'.awaiting waiting) ∧
      d'.Holds (asked ++ first) := by
  induction bundled generalizing d asked with
  | nil => exact ⟨d, rfl, by rwa [List.append_nil]⟩
  | verbose more ih =>
    obtain ⟨d₂, here, held₂⟩ := held.exists_take held₁
    obtain ⟨d', rest, held'⟩ := ih held₂ (List.append_cons .. ▸ held₁)
    exact ⟨d', (bundle_request_eq_ok_iff rfl rfl _).mpr ⟨d₂, here, rest⟩,
      List.append_cons .. ▸ held'⟩
  | list more ih =>
    obtain ⟨d₂, here, held₂⟩ := held.exists_take held₁
    obtain ⟨d', rest, held'⟩ := ih held₂ (List.append_cons .. ▸ held₁)
    exact ⟨d', (bundle_request_eq_ok_iff rfl rfl _).mpr ⟨d₂, here, rest⟩,
      List.append_cons .. ▸ held'⟩
  | last s => exact ⟨d, by rw [bundle_last, held.await_eq], by rwa [List.append_nil]⟩
  | attached s c value no_sign =>
    rw [bundle_attached s no_sign, held.assign_eq]
    exact held.exists_take held₁
  | joined s value =>
    rw [bundle_joined, held.assign_eq]
    exact held.exists_take held₁

/-! ### Long names -/

theorem toList_name (s : Setting) :
    s.name.toList = '-' :: '-' :: (Choice.setting s).longName.toList := by
  cases s <;> rfl

theorem no_sign_in_name (s : Setting) : '=' ∉ (Choice.setting s).longName.toList := by
  cases s <;> decide +kernel

theorem ofName_longName (s : Setting) :
    Choice.ofName (Choice.setting s).longName.toList = some (.setting s) := by
  cases s <;> rfl

theorem shape_of_name (s : Setting) (value : Option (List Char)) :
    Shape.ofArgument ('-' :: '-' :: ((Choice.setting s).longName.toList ++ joinedTo value)) =
      .long (Choice.setting s).longName.toList value := by
  have as_long := ofLong_append (no_sign_in_name s) value
  cases s <;> exact as_long

theorem long_sound (held : d.Holds asked) (taken : d.long argument name value = .ok d₁)
    (spelled : argument.toList = '-' :: '-' :: (name ++ joinedTo value)) :
    ∃ (more : List Request) (waiting : Option Setting) (d' : Draft),
      Argument more waiting argument ∧ d'.Holds (asked ++ more) ∧ d₁ = d'.awaiting waiting := by
  rcases found : Choice.ofName name with _ | ⟨f⟩ | s
  · simp [long, found] at taken
  · obtain rfl := Choice.eq_longName found
    rcases value with _ | value
    · have taken : d.flip f = .ok d₁ := by simpa [long, found] using taken
      cases f with
      | verbose =>
        obtain rfl : argument = "--verbose" := String.toList_inj.mp spelled
        exact ⟨_, none, d₁, .verbose, held.take taken, rfl⟩
      | list =>
        obtain rfl : argument = "--list" := String.toList_inj.mp spelled
        exact ⟨_, none, d₁, .list, held.take taken, rfl⟩
      | help => exact absurd taken flip_help_ne
    · simp [long, found] at taken
  · obtain rfl := Choice.eq_longName found
    rcases value with _ | value
    · have taken : d.await s = .ok d₁ := by simpa [long, found] using taken
      rw [held.await_eq] at taken
      obtain rfl := Except.ok.inj taken
      obtain rfl : argument = s.name := by
        rw [← String.toList_inj, spelled, toList_name, joinedTo, List.append_nil]
      exact ⟨_, some s, d, .named s, by rwa [List.append_nil], rfl⟩
    · have stored : d.assign s value = .ok d₁ := by simpa [long, found] using taken
      rw [held.assign_eq] at stored
      obtain rfl : argument = s.name ++ "=" ++ String.ofList value := by
        rw [← String.toList_inj, spelled]
        simp [toList_name, joinedTo]
      exact ⟨_, none, d₁, .joined s _, held.take stored, rfl⟩

/-! ### Any argument with options -/

theorem options_sound (held : d.Holds asked) (taken : d.options argument = .ok d₁) :
    ∃ (more : List Request) (waiting : Option Setting) (d' : Draft),
      Argument more waiting argument ∧ d'.Holds (asked ++ more) ∧ d₁ = d'.awaiting waiting := by
  have spec := shape_spec argument.toList
  rcases shape : Shape.ofArgument argument.toList with _ | ⟨name, value⟩ | letters | _
  · simp [options, shape] at taken
  · rw [shape] at spec
    simp only [options, shape] at taken
    exact long_sound held taken spec
  · rw [shape] at spec
    obtain ⟨spelled, some_letter⟩ := spec
    simp only [options, shape] at taken
    obtain ⟨more, waiting, d', bundled, held', rfl⟩ := bundle_sound held taken
    obtain rfl : argument = String.ofList ('-' :: letters) := by
      rw [← spelled, String.ofList_toList]
    exact ⟨more, waiting, d', .letters bundled some_letter, held', rfl⟩
  · simp [options, shape] at taken

theorem options_complete (spelled : Argument first waiting argument) (held : d.Holds asked)
    (held₁ : d₁.Holds (asked ++ (first ++ later))) :
    ∃ d' : Draft, d.options argument = .ok (d'.awaiting waiting) ∧ d'.Holds (asked ++ first) := by
  cases spelled with
  | verbose => exact held.exists_take held₁
  | list => exact held.exists_take held₁
  | joined s value =>
    have shape : Shape.ofArgument (s.name ++ "=" ++ value).toList =
        .long (Choice.setting s).longName.toList (some value.toList) := by
      rw [← shape_of_name s]
      simp [toList_name, joinedTo]
    have eq : d.options (s.name ++ "=" ++ value) = d.take (.value s value) := by
      simp only [options, shape, long, ofName_longName, held.assign_eq, String.ofList_toList]
    rw [eq]
    exact held.exists_take held₁
  | named s =>
    have shape : Shape.ofArgument s.name.toList =
        .long (Choice.setting s).longName.toList none := by
      rw [← shape_of_name s, toList_name, joinedTo, List.append_nil]
    have eq : d.options s.name = .ok (d.awaiting (some s)) := by
      simp only [options, shape, long, ofName_longName, held.await_eq]
    exact ⟨d, eq, by rwa [List.append_nil]⟩
  | letters bundled some_letter =>
    have shape := shape_of_bundled bundled some_letter
    rw [options, String.toList_ofList, shape]
    exact bundle_complete bundled held held₁

/-! ## Settling first -/

/-- An operation that finishes with the option that waits before it does anything else. -/
def SettlesFirst (op : Draft → Except UsageError Draft) : Prop :=
  ∀ d d₁, op d = .ok d₁ ↔ ∃ d', d.settle = .ok d' ∧ op d' = .ok d₁

theorem waiting_of_settle (settled : d.settle = .ok d') : d'.waiting = none := by
  unfold settle at settled
  split at settled
  · rename_i nothing
    obtain rfl := Except.ok.inj settled
    exact nothing
  · cases settled
  · exact (store_keeps settled).1

theorem settlesFirst_of {op : Draft → Except UsageError Draft}
    (failed : ∀ {d e}, d.settle = .error e → op d = .error e)
    (passed : ∀ {d d'}, d.settle = .ok d' → d'.settle = .ok d' → op d = op d') :
    SettlesFirst op := by
  intro d d₁
  rcases settled : d.settle with e | d'
  · rw [failed settled]
    exact ⟨nofun, nofun⟩
  · rw [passed settled (settle_of_settled (waiting_of_settle settled))]
    exact ⟨fun taken => ⟨d', rfl, taken⟩, fun ⟨_, same, taken⟩ => Except.ok.inj same ▸ taken⟩

theorem flip_settlesFirst (f : Switch) : SettlesFirst (flip · f) :=
  settlesFirst_of (fun failed => by rw [flip, failed])
    (fun settled again => by rw [flip, flip, settled, again])

theorem assign_settlesFirst (s : Setting) (value : List Char) : SettlesFirst (assign · s value) :=
  settlesFirst_of (fun failed => by rw [assign, failed])
    (fun settled again => by rw [assign, assign, settled, again])

theorem await_settlesFirst (s : Setting) : SettlesFirst (await · s) :=
  settlesFirst_of (fun failed => by rw [await, failed])
    (fun settled again => by rw [await, await, settled, again])

theorem SettlesFirst.error (e : UsageError) : SettlesFirst fun _ => .error e :=
  fun _ _ => ⟨nofun, nofun⟩

theorem SettlesFirst.bind {op : Draft → Except UsageError Draft} (first : SettlesFirst op)
    (f : Draft → Except UsageError Draft) : SettlesFirst fun d => op d >>= f := by
  intro d d₁
  simp only [bind_eq_ok, first d]
  exact ⟨fun ⟨d₂, ⟨d', settled, here⟩, rest⟩ => ⟨d', settled, d₂, here, rest⟩,
    fun ⟨d', settled, d₂, here, rest⟩ => ⟨d₂, ⟨d', settled, here⟩, rest⟩⟩

theorem bundle_settlesFirst (some_letter : letters ≠ []) :
    SettlesFirst (bundle argument · letters) := by
  rcases letters with _ | ⟨letter, rest⟩
  · exact absurd rfl some_letter
  · rcases found : Choice.ofLetter letter with _ | ⟨f⟩ | s
    · simp only [bundle, found]
      exact .error _
    · simp only [bundle_flag found]
      exact (flip_settlesFirst f).bind _
    · obtain rfl : letter = s.letter := Choice.letter_of_found found
      rcases rest with _ | ⟨c, value⟩
      · simp only [bundle_last]
        exact await_settlesFirst s
      · by_cases sign : c = '='
        · simp only [sign, bundle_joined]
          exact assign_settlesFirst s value
        · simp only [bundle_attached s sign]
          exact assign_settlesFirst s _

theorem long_settlesFirst : SettlesFirst (long argument · name value) := by
  rcases found : Choice.ofName name with _ | ⟨f⟩ | s <;> rcases value with _ | value <;>
    simp only [long, found]
  · exact .error _
  · exact .error _
  · exact flip_settlesFirst f
  · exact .error _
  · exact await_settlesFirst s
  · exact assign_settlesFirst s value

theorem options_settlesFirst : SettlesFirst (options argument) := by
  have spec := shape_spec argument.toList
  unfold options
  rcases shape : Shape.ofArgument argument.toList with _ | ⟨name, value⟩ | letters | _
  · exact .error _
  · exact long_settlesFirst
  · rw [shape] at spec
    exact bundle_settlesFirst spec.2
  · exact .error _

/-! ## All arguments -/

theorem isPlain_of_shape (shape : Shape.ofArgument argument.toList = .plain) :
    IsPlain argument := by
  have spec := shape_spec argument.toList
  rw [shape] at spec
  exact spec.imp_right fun dash => String.toList_inj.mp dash

theorem eq_of_shape_stop (shape : Shape.ofArgument argument.toList = .stop) : argument = "--" := by
  have spec := shape_spec argument.toList
  rw [shape] at spec
  exact String.toList_inj.mp spec

theorem takeAll_of_options (taken : d.options argument = .ok d') :
    d.takeAll (argument :: line) = d'.takeAll line := by
  unfold options at taken
  split at taken
  · rename_i shape
    simp only [takeAll, shape, taken]
  · rename_i shape
    simp only [takeAll, shape, taken]
  · cases taken

/-- What it takes to take in an argument and those that follow. -/
theorem takeAll_cons_eq_ok_iff : d.takeAll (argument :: line) = .ok d₁ ↔
    (argument = "--" ∧ line = [] ∧ d.settle = .ok d₁) ∨
    (IsPlain argument ∧ ∃ s, d.waiting = some (s, none) ∧
      takeAll { d with waiting := some (s, some argument) } line = .ok d₁) ∨
    ∃ d', d.options argument = .ok d' ∧ d'.takeAll line = .ok d₁ := by
  constructor
  · intro taken
    rcases shape : Shape.ofArgument argument.toList with _ | ⟨name, value⟩ | letters | _ <;>
      simp only [takeAll, shape] at taken
    · rcases line with _ | ⟨next, rest⟩
      · exact .inl ⟨eq_of_shape_stop shape, rfl, taken⟩
      · cases taken
    · rcases here : d.long argument name value with e | d'
      · simp [here] at taken
      · refine .inr (.inr ⟨d', by simp only [options, shape, here], by simpa [here] using taken⟩)
    · rcases here : bundle argument d letters with e | d'
      · simp [here] at taken
      · refine .inr (.inr ⟨d', by simp only [options, shape, here], by simpa [here] using taken⟩)
    · rcases waits : d.waiting with _ | ⟨s, _ | value⟩ <;> simp only [plain, waits] at taken
      · cases taken
      · exact .inr (.inl ⟨isPlain_of_shape shape, s, rfl, taken⟩)
      · cases taken
  · rintro (⟨rfl, rfl, settled⟩ | ⟨value, s, waits, taken⟩ | ⟨d', here, taken⟩)
    · exact settled
    · simp only [takeAll, shape_of_isPlain value, plain, waits]
      exact taken
    · rw [takeAll_of_options here, taken]

/-- Taking in arguments finishes with an option that has met its value before it does anything
else. -/
theorem takeAll_settle (met : ∀ s, d.waiting ≠ some (s, none)) :
    d.takeAll line = .ok d₁ ↔ ∃ d', d.settle = .ok d' ∧ d'.takeAll line = .ok d₁ := by
  have again : ∀ {d'}, d.settle = .ok d' → d'.settle = .ok d' :=
    fun settled => settle_of_settled (waiting_of_settle settled)
  have no_option : ∀ {d'}, d.settle = .ok d' → ∀ s, d'.waiting ≠ some (s, none) :=
    fun settled s waits => by simp [waiting_of_settle settled] at waits
  rcases line with _ | ⟨argument, line⟩
  · exact ⟨fun settled => ⟨d₁, settled, again settled⟩,
      fun ⟨d', settled, same⟩ => settled.trans ((again settled).symm.trans same)⟩
  · simp only [takeAll_cons_eq_ok_iff]
    constructor
    · rintro (⟨stop, last, settled⟩ | ⟨-, s, waits, -⟩ | ⟨d₂, here, rest⟩)
      · exact ⟨d₁, settled, .inl ⟨stop, last, again settled⟩⟩
      · exact absurd waits (met s)
      · obtain ⟨d', settled, here⟩ := (options_settlesFirst d d₂).mp here
        exact ⟨d', settled, .inr (.inr ⟨d₂, here, rest⟩)⟩
    · rintro ⟨d', settled, ⟨stop, last, same⟩ | ⟨-, s, waits, -⟩ | ⟨d₂, here, rest⟩⟩
      · exact .inl ⟨stop, last, settled.trans ((again settled).symm.trans same)⟩
      · exact absurd waits (no_option settled s)
      · exact .inr (.inr ⟨d₂, (options_settlesFirst d d₂).mpr ⟨d', settled, here⟩, rest⟩)

theorem settle_awaiting (held : d.Holds asked) :
    (d.awaiting waiting).settle = .ok d₁ ↔ waiting = none ∧ d = d₁ := by
  rcases waiting with _ | s
  · rw [awaiting, settle_of_settled held.settled]
    simp
  · simp [awaiting, settle]

/-- An option that waits takes the value that follows. -/
theorem takeAll_value (held : d.Holds asked) {text : String} (plain : IsPlain text) :
    (d.awaiting (some s)).takeAll (text :: line) = .ok d₁ ↔
      ∃ d', d.take (.value s text) = .ok d' ∧ d'.takeAll line = .ok d₁ := by
  have settle_eq : settle { d with waiting := some (s, some text) } = d.take (.value s text) := by
    have settled := held.settled
    cases d
    obtain rfl : _ = none := settled
    rfl
  have met : ∀ s', { d with waiting := some (s, some text) }.waiting ≠ some (s', none) := by simp
  rw [← settle_eq, ← takeAll_settle met, takeAll_cons_eq_ok_iff]
  constructor
  · rintro (⟨-, -, settled⟩ | ⟨-, s', waits, rest⟩ | ⟨d', here, rest⟩)
    · cases ((settle_awaiting held).mp settled).1
    · cases waits
      exact rest
    · obtain ⟨_, settled, -⟩ := (options_settlesFirst _ _).mp here
      cases ((settle_awaiting held).mp settled).1
  · exact fun rest => .inr (.inl ⟨plain, s, rfl, rest⟩)

theorem takeAll_sound (held : d.Holds asked) (taken : (d.awaiting waiting).takeAll line = .ok d₁) :
    ∃ more, Spelled waiting more line ∧ d₁.Holds (asked ++ more) := by
  induction line generalizing d asked waiting with
  | nil =>
    obtain ⟨rfl, rfl⟩ := (settle_awaiting held).mp taken
    exact ⟨[], .nil, by rwa [List.append_nil]⟩
  | cons argument line ih =>
    rcases takeAll_cons_eq_ok_iff.mp taken with ⟨rfl, rfl, settled⟩ | ⟨plain, s, waits, -⟩ |
      ⟨d', here, rest⟩
    · obtain ⟨rfl, rfl⟩ := (settle_awaiting held).mp settled
      exact ⟨[], .stop, by rwa [List.append_nil]⟩
    · obtain rfl : waiting = some s := by
        rcases waiting with _ | s'
        · cases held.settled.symm.trans waits
        · cases waits
          rfl
      obtain ⟨d', here, rest⟩ := (takeAll_value held plain).mp taken
      have rest_taken : (d'.awaiting none).takeAll line = .ok d₁ := rest
      obtain ⟨more, spelled, held₁⟩ := ih (held.take here) rest_taken
      exact ⟨_ :: more, .value plain spelled, List.append_cons .. ▸ held₁⟩
    · obtain ⟨d₂, settled, here⟩ := (options_settlesFirst _ _).mp here
      obtain ⟨rfl, rfl⟩ := (settle_awaiting held).mp settled
      obtain ⟨first, waiting, d'', spelled, held', rfl⟩ := options_sound held here
      obtain ⟨more, spelled', held₁⟩ := ih held' rest
      exact ⟨first ++ more, .option spelled spelled', List.append_assoc .. ▸ held₁⟩

theorem takeAll_complete (spelled : Spelled waiting more line) (held : d.Holds asked)
    (held₁ : d₁.Holds (asked ++ more)) : (d.awaiting waiting).takeAll line = .ok d₁ := by
  induction spelled generalizing d asked with
  | nil =>
    rw [List.append_nil] at held₁
    exact (settle_awaiting held).mpr ⟨rfl, held.unique held₁⟩
  | stop =>
    rw [List.append_nil] at held₁
    exact (settle_awaiting held).mpr ⟨rfl, held.unique held₁⟩
  | option here rest ih =>
    obtain ⟨d', taken, held'⟩ := options_complete here held held₁
    rw [awaiting, takeAll_of_options taken]
    exact ih held' (List.append_assoc .. ▸ held₁)
  | value plain rest ih =>
    obtain ⟨d', taken, held'⟩ := held.exists_take held₁
    have rest_eq := ih held' (List.append_cons .. ▸ held₁)
    exact (takeAll_value held plain).mpr ⟨d', taken, rest_eq⟩

/-- What is taken in is what is spelled. -/
theorem takeAll_eq_ok_iff (held : d.Holds asked) : (d.awaiting waiting).takeAll line = .ok d₁ ↔
    ∃ more, Spelled waiting more line ∧ d₁.Holds (asked ++ more) :=
  ⟨takeAll_sound held, fun ⟨_, spelled, held₁⟩ => takeAll_complete spelled held held₁⟩

end Draft

end BootRom.Command
