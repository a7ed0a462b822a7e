import TagAudit.Command.Arguments

/-!
# The grammar of command lines

A command line is a list of items, at most one of them a file, and its words are those of its items
one after another. Reading accepts exactly the words of command lines. A first word tells what item
it begins, so words have at most one division into items, and what is read is told by the items: the
flags among them, the last value of each setting and the file. Their order matters only between
values of one setting.
-/

namespace TagAudit.Command

namespace Flag

theorem ofWord?_word (flag : Flag) : ofWord? flag.word = some flag := by
  cases flag <;> decide

theorem word_of_ofWord? {flag : Flag} {word : String} (h : ofWord? word = some flag) :
    flag.word = word := by
  simpa using List.find?_some h

theorem isOption_word (flag : Flag) : Arguments.isOption flag.word = true := by
  cases flag <;> decide

theorem ofWord?_of_plain {word : String} (h : Arguments.isOption word = false) :
    ofWord? word = none := by
  refine Option.eq_none_iff_forall_ne_some.mpr fun flag hflag => ?_
  rw [← word_of_ofWord? hflag, flag.isOption_word] at h
  cases h

end Flag

namespace Setting

theorem ofWord?_word (setting : Setting) : ofWord? setting.word = some setting := by
  cases setting <;> decide

theorem word_of_ofWord? {setting : Setting} {word : String} (h : ofWord? word = some setting) :
    setting.word = word := by
  simpa using List.find?_some h

theorem isOption_word (setting : Setting) : Arguments.isOption setting.word = true := by
  cases setting <;> decide

theorem ofWord?_of_plain {word : String} (h : Arguments.isOption word = false) :
    ofWord? word = none := by
  refine Option.eq_none_iff_forall_ne_some.mpr fun setting hsetting => ?_
  rw [← word_of_ofWord? hsetting, setting.isOption_word] at h
  cases h

/-- No word for a setting is one for a flag. -/
theorem flag_ofWord?_word (setting : Setting) : Flag.ofWord? setting.word = none := by
  cases setting <;> decide

end Setting

/-- No word for a flag is one for a setting. -/
theorem Flag.setting_ofWord?_word (flag : Flag) : Setting.ofWord? flag.word = none := by
  cases flag <;> decide

/-- What a command line is made of: a flag, a setting with its value, which may be any word, or a
file, which does not look like an option. -/
inductive Item
  | flag (raised : Flag)
  | setting (given : Setting) (value : String)
  | file (path : String) (plain : Arguments.isOption path = false)
  deriving DecidableEq

namespace Item

/-- The words of an item. -/
def words : Item → List String
  | flag raised => [raised.word]
  | setting given value => [given.word, value]
  | file path _ => [path]

/-- The flag that an item raises. -/
def flag? : Item → Option Flag
  | flag raised => some raised
  | setting _ _ | file _ _ => none

/-- The setting that an item gives a value. -/
def setting? : Item → Option Setting
  | setting given _ => some given
  | flag _ | file _ _ => none

/-- The file that an item is. -/
def file? : Item → Option String
  | file path _ => some path
  | flag _ | setting _ _ => none

/-- The value that an item gives a setting. -/
def value? (asked : Setting) : Item → Option String
  | setting given value => if given = asked then some value else none
  | flag _ | file _ _ => none

/-- The first word of an item tells what it raises or sets. -/
theorem exists_words_eq_cons (item : Item) : ∃ word later, item.words = word :: later ∧
    Flag.ofWord? word = item.flag? ∧ Setting.ofWord? word = item.setting? := by
  cases item with
  | flag raised => exact ⟨_, _, rfl, raised.ofWord?_word, raised.setting_ofWord?_word⟩
  | setting given value => exact ⟨_, _, rfl, given.flag_ofWord?_word, given.ofWord?_word⟩
  | file path plain =>
    exact ⟨_, _, rfl, Flag.ofWord?_of_plain plain, Setting.ofWord?_of_plain plain⟩

@[simp]
theorem words_ne_nil (item : Item) : item.words ≠ [] := by
  cases item <;> simp [words]

/-- Words begin with the words of one item only. -/
theorem eq_of_words_append {item other : Item} {rest rest' : List String}
    (h : item.words ++ rest = other.words ++ rest') : item = other ∧ rest = rest' := by
  obtain ⟨word, later, hwords, hflag, hsetting⟩ := item.exists_words_eq_cons
  obtain ⟨word', later', hwords', hflag', hsetting'⟩ := other.exists_words_eq_cons
  have hword : word = word' := by
    rw [hwords, hwords'] at h
    exact (List.cons.inj h).1
  have hflags : item.flag? = other.flag? := by rw [← hflag, ← hflag', hword]
  have hsettings : item.setting? = other.setting? := by rw [← hsetting, ← hsetting', hword]
  clear hwords hwords' hflag hflag' hsetting hsetting'
  cases item <;> cases other <;> simp_all [flag?, setting?, words]

end Item

/-- The words of items, one item after another. -/
def itemWords (items : List Item) : List String := items.flatMap Item.words

/-- The files among items. -/
def itemFiles (items : List Item) : List String := items.filterMap Item.file?

/-- The values that items give a setting, in their order. -/
def itemValues (setting : Setting) (items : List Item) : List String :=
  items.filterMap (Item.value? setting)

/-- Words divide into items in at most one way. -/
theorem itemWords_injective : Function.Injective itemWords := by
  intro items
  induction items with
  | nil =>
    rintro (_ | ⟨other, others⟩) h
    · rfl
    · simp [itemWords] at h
  | cons item items ih =>
    rintro (_ | ⟨other, others⟩) h
    · simp [itemWords] at h
    · simp only [itemWords, List.flatMap_cons] at h
      obtain ⟨rfl, hrest⟩ := Item.eq_of_words_append h
      rw [ih hrest]

/-- A command line: items, at most one of them a file. -/
structure CommandLine where
  items : List Item
  oneFile : (itemFiles items).length ≤ 1

/-- The words of a command line. -/
def CommandLine.words (line : CommandLine) : List String := itemWords line.items

namespace Arguments

/-- Is a flag raised? -/
def isRaised (arguments : Arguments) : Flag → Bool
  | .debug => arguments.debug
  | .csv => arguments.csv

/-- The value of a setting. -/
def value? (arguments : Arguments) : Setting → Option String
  | .config => arguments.config?
  | .outputDirectory => arguments.outputDirectory?

/-- The arguments with an item more. -/
def take (arguments : Arguments) : Item → Arguments
  | .flag raised => arguments.raise raised
  | .setting given value => arguments.set given value
  | .file path _ => { arguments with file? := some path }

section Take

variable (arguments : Arguments) (item : Item)

theorem isRaised_take (flag : Flag) : (arguments.take item).isRaised flag =
    (item.flag? == some flag || arguments.isRaised flag) := by
  cases item with
  | flag raised => cases raised <;> cases flag <;> rfl
  | setting given value => cases given <;> cases flag <;> rfl
  | file path plain => cases flag <;> rfl

theorem value?_take (setting : Setting) : (arguments.take item).value? setting =
    (item.value? setting).or (arguments.value? setting) := by
  cases item with
  | flag raised => cases raised <;> cases setting <;> rfl
  | setting given value => cases given <;> cases setting <;> rfl
  | file path plain => cases setting <;> rfl

theorem file?_take : (arguments.take item).file? = item.file?.or arguments.file? := by
  cases item with
  | flag raised => cases raised <;> rfl
  | setting given value => cases given <;> rfl
  | file path plain => rfl

end Take

/-- The arguments are those that items record: the flags among them, the last value of each setting
and the file. -/
structure Records (arguments : Arguments) (items : List Item) : Prop where
  flag : ∀ flag, arguments.isRaised flag = true ↔ .flag flag ∈ items
  setting : ∀ setting, arguments.value? setting = (itemValues setting items).getLast?
  file : arguments.file? = (itemFiles items).head?

/-- Only one value of the arguments records given items. -/
theorem Records.unique {arguments other : Arguments} {items : List Item}
    (h : arguments.Records items) (hother : other.Records items) : arguments = other := by
  have hflag : ∀ flag, arguments.isRaised flag = other.isRaised flag := fun flag => by
    rw [Bool.eq_iff_iff, h.flag, hother.flag]
  have hsetting : ∀ setting, arguments.value? setting = other.value? setting := fun setting => by
    rw [h.setting, hother.setting]
  cases arguments
  cases other
  have hfile := h.file.trans hother.file.symm
  have hdebug := hflag .debug
  have hcsv := hflag .csv
  have hconfig := hsetting .config
  have hdirectory := hsetting .outputDirectory
  simp_all [isRaised, value?]

/-- Another item is recorded, a file if there is none yet. -/
theorem Records.take {arguments : Arguments} {items : List Item} (h : arguments.Records items)
    {item : Item} (hone : (itemFiles (items ++ [item])).length ≤ 1) :
    (arguments.take item).Records (items ++ [item]) where
  flag flag := by
    have hitem : item.flag? = some flag ↔ item = .flag flag := by
      cases item <;> simp [Item.flag?]
    rw [isRaised_take, Bool.or_eq_true, beq_iff_eq, hitem, h.flag, List.mem_append,
      List.mem_singleton, or_comm, eq_comm]
  setting setting := by
    rw [value?_take, h.setting, itemValues, itemValues, List.filterMap_append]
    cases hvalue : item.value? setting <;> simp [hvalue]
  file := by
    rw [itemFiles, List.filterMap_append] at hone
    rw [file?_take, h.file, itemFiles, itemFiles, List.filterMap_append]
    cases hfile : item.file? with
    | none => simp [hfile]
    | some path =>
      have hnone : items.filterMap Item.file? = [] := by
        simpa [hfile] using hone
      simp [hfile, hnone]

/-- No arguments are recorded at the beginning. -/
theorem records_nil : ({} : Arguments).Records [] where
  flag flag := by cases flag <;> simp [isRaised]
  setting setting := by cases setting <;> rfl
  file := rfl

/-- All further items are recorded. -/
theorem Records.foldl {arguments : Arguments} {done items : List Item} (h : arguments.Records done)
    (hone : (itemFiles (done ++ items)).length ≤ 1) :
    (items.foldl Arguments.take arguments).Records (done ++ items) := by
  induction items generalizing arguments done with
  | nil => simpa using h
  | cons item items ih =>
    rw [List.append_cons] at hone ⊢
    have hitem : (itemFiles (done ++ [item])).length ≤ 1 := by
      rw [itemFiles, List.filterMap_append, List.length_append] at hone
      exact Nat.le_trans (Nat.le_add_right _ _) hone
    exact ih (h.take hitem) hone

section Reading

/-- There is at most one file together with those among the items. -/
def Admits (arguments : Arguments) (items : List Item) : Prop :=
  (arguments.file?.toList ++ itemFiles items).length ≤ 1

variable {arguments final : Arguments} {item : Item} {items : List Item}

theorem admits_nil : arguments.Admits [] := by
  cases hfile : arguments.file? <;> simp [Admits, itemFiles, hfile]

theorem admits_singleton_iff :
    arguments.Admits [item] ↔ item.file? = none ∨ arguments.file? = none := by
  cases hfile : arguments.file? <;> cases hitem : item.file? <;>
    simp [Admits, itemFiles, hfile, hitem]

theorem admits_cons_iff : arguments.Admits (item :: items) ↔
    arguments.Admits [item] ∧ (arguments.take item).Admits items := by
  rw [admits_singleton_iff, Admits, Admits, file?_take]
  cases hfile : arguments.file? <;> cases hitem : item.file? <;> simp [itemFiles, hitem]

/-- Reading takes an item at a time. -/
theorem readFrom_words_append (h : arguments.Admits [item]) (rest : List String) :
    readFrom arguments (item.words ++ rest) = readFrom (arguments.take item) rest := by
  cases item with
  | flag raised =>
    rw [Item.words, List.singleton_append, readFrom.eq_def]
    simp [Flag.ofWord?_word, take]
  | setting given value =>
    rw [Item.words, List.cons_append, List.singleton_append, readFrom.eq_def]
    simp [given.flag_ofWord?_word, given.ofWord?_word, take]
  | file path plain =>
    have hnone : arguments.file? = none := (admits_singleton_iff.mp h).resolve_left nofun
    rw [Item.words, List.singleton_append, readFrom.eq_def]
    simp [Flag.ofWord?_of_plain plain, Setting.ofWord?_of_plain plain, plain, hnone, take]

/-- Reading the words of items takes all of them. -/
theorem readFrom_itemWords (h : arguments.Admits items) :
    readFrom arguments (itemWords items) = .ok (items.foldl take arguments) := by
  induction items generalizing arguments with
  | nil => rfl
  | cons item items ih =>
    obtain ⟨hitem, hitems⟩ := admits_cons_iff.mp h
    rw [itemWords, List.flatMap_cons, readFrom_words_append hitem]
    exact ih hitems

/-- The words that are read divide into items. -/
theorem exists_items_of_readFrom {words : List String} (h : readFrom arguments words = .ok final) :
    ∃ items, itemWords items = words ∧ arguments.Admits items := by
  -- A step that goes on puts an item before those that the rest divides into.
  have hcons : ∀ (arguments : Arguments) (item : Item) (rest : List String),
      arguments.Admits [item] →
      (∃ items, itemWords items = rest ∧ (arguments.take item).Admits items) →
      ∃ items, itemWords items = item.words ++ rest ∧ arguments.Admits items := by
    rintro arguments item _ hitem ⟨items, rfl, hitems⟩
    exact ⟨item :: items, rfl, admits_cons_iff.mpr ⟨hitem, hitems⟩⟩
  fun_induction readFrom arguments words with
  | case1 arguments => exact ⟨[], rfl, admits_nil⟩
  | case2 arguments word rest flag hflag ih =>
    obtain rfl := Flag.word_of_ofWord? hflag
    exact hcons arguments (.flag flag) rest (admits_singleton_iff.mpr (.inl rfl)) (ih h)
  | case4 arguments word setting hsetting _ value rest ih =>
    obtain rfl := Setting.word_of_ofWord? hsetting
    exact hcons arguments (.setting setting value) rest (admits_singleton_iff.mpr (.inl rfl)) (ih h)
  | case7 arguments word rest _ _ hplain hnone ih =>
    exact hcons arguments (.file word (by simpa using hplain)) rest
      (admits_singleton_iff.mpr (.inr hnone)) (ih h)
  | case3 | case5 | case6 => cases h

/-- The words of a command line are read as what its items record. -/
theorem exists_read_words (line : CommandLine) :
    ∃ arguments, read line.words = .ok arguments ∧ arguments.Records line.items :=
  ⟨_, readFrom_itemWords line.oneFile, records_nil.foldl line.oneFile⟩

/-- Reading accepts the words of command lines and nothing else. -/
theorem exists_read_eq_ok_iff {words : List String} :
    (∃ arguments, read words = .ok arguments) ↔ ∃ line : CommandLine, line.words = words := by
  constructor
  · rintro ⟨arguments, h⟩
    obtain ⟨items, hwords, hadmits⟩ := exists_items_of_readFrom h
    exact ⟨⟨items, hadmits⟩, hwords⟩
  · rintro ⟨line, rfl⟩
    obtain ⟨arguments, hread, -⟩ := exists_read_words line
    exact ⟨arguments, hread⟩

/-- Reading refuses what it does not accept. -/
theorem exists_read_eq_error_iff {words : List String} :
    (∃ error, read words = .error error) ↔ ¬ ∃ line : CommandLine, line.words = words := by
  rw [← exists_read_eq_ok_iff]
  cases read words <;> simp

end Reading

section Order

variable {items others : List Item}

/-- Items in another order record the same, if every setting is given its values in the same
order. -/
theorem Records.of_perm {arguments : Arguments} (h : arguments.Records items)
    (hone : (itemFiles items).length ≤ 1) (hperm : others.Perm items)
    (hvalues : ∀ setting, itemValues setting others = itemValues setting items) :
    arguments.Records others where
  flag flag := by rw [h.flag, hperm.mem_iff]
  setting setting := by rw [h.setting, hvalues]
  file := by
    have hfiles : (itemFiles others).Perm (itemFiles items) := hperm.filterMap _
    have hsame : itemFiles others = itemFiles items := by
      cases hitems : itemFiles items with
      | nil => simpa [hitems] using hfiles
      | cons path paths =>
        have hnone : paths = [] := by simpa [hitems] using hone
        simpa [hitems, hnone] using hfiles
    rw [h.file, hsame]

/-- The order of the items makes no difference to what is read, apart from that of the values of one
setting. -/
theorem read_itemWords_of_perm (line : CommandLine) (hperm : others.Perm line.items)
    (hvalues : ∀ setting, itemValues setting others = itemValues setting line.items) :
    read (itemWords others) = read line.words := by
  have hone : (itemFiles others).length ≤ 1 := by
    rw [itemFiles, (hperm.filterMap _).length_eq]
    exact line.oneFile
  obtain ⟨arguments, hread, hrecords⟩ := exists_read_words line
  obtain ⟨other, hother, hrecords'⟩ := exists_read_words ⟨others, hone⟩
  have hother' : read (itemWords others) = .ok other := hother
  rw [hread, hother', hrecords'.unique (hrecords.of_perm line.oneFile hperm hvalues)]

end Order

/-- Words are read by the grammar of command lines. -/
structure FollowsGrammar (words : List String) : Prop where
  accepts : (∃ arguments, read words = .ok arguments) ↔ ∃ line : CommandLine, line.words = words
  refuses : (∃ error, read words = .error error) ↔ ¬ ∃ line : CommandLine, line.words = words
  divides : ∀ items others, itemWords items = words → itemWords others = words → items = others
  records : ∀ line : CommandLine, line.words = words →
    ∃ arguments, read words = .ok arguments ∧ arguments.Records line.items
  /-- Whole items may stand in another order, as long as the values of each setting keep theirs. -/
  reorders : ∀ (line : CommandLine) (items : List Item), line.words = words →
    items.Perm line.items →
    (∀ setting, itemValues setting items = itemValues setting line.items) →
    read (itemWords items) = read words

/-- All words are read by the grammar. -/
theorem followsGrammar_read (words : List String) : FollowsGrammar words where
  accepts := exists_read_eq_ok_iff
  refuses := exists_read_eq_error_iff
  divides _ _ hitems hothers := itemWords_injective (hitems.trans hothers.symm)
  records := by
    rintro line rfl
    exact exists_read_words line
  reorders := by
    rintro line items rfl hperm hvalues
    exact read_itemWords_of_perm line hperm hvalues

/-- After the word for a setting any word is its value, and the empty word is a file. -/
example : read ["--config", "--csv", "", "--debug", "--config", "c"] =
    .ok { file? := some "", debug := true, config? := some "c" } := by
  rfl

end Arguments

end TagAudit.Command
