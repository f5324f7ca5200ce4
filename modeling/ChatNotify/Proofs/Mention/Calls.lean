import ChatNotify.Proofs.Mention.Findings
import ChatNotify.Proofs.Mention.Index
import ChatNotify.Proofs.Text.LetterCase
import ChatNotify.Proofs.Text.Splitting

namespace ChatNotify.Mention

/-- The word is one of the maximal runs of word characters in the fragment. That a run is not empty excludes
no keyword, as none is read empty: `ne_empty_of_mem_mentionKeys_read`. -/
structure IsRun (word fragment : List Char) : Prop where
  ne_nil : word ≠ []
  chars : ∀ c ∈ word, isWordChar c = true
  bounded : ∃ before after, fragment = before ++ word ++ after ∧
    (∀ c ∈ before.getLast?, isWordChar c = false) ∧ ∀ c ∈ after.head?, isWordChar c = false

/-- Holds of the characters of plain usernames. -/
def isNameChar (c : Char) : Bool :=
  c.isAlphanum || c = '.' || c = '-' || c = '_'

/-- The words that call a user. -/
inductive Calls (user : User) : List Char → Prop
  /-- The username behind an at sign, in any ASCII letter case. -/
  | username {name : List Char} (hchars : ∀ c ∈ user.username.toList, isNameChar c = true)
      (hreserved : isReserved ('@' :: user.username.toList) = false)
      (hname : name.map Char.toLower = user.username.toList.map Char.toLower) : Calls user ('@' :: name)
  /-- A keyword of the user, in any letter case. -/
  | keyword {word : List Char} {key : String} (hkey : key ∈ user.preferences.mentionKeys)
      (hstart : ∀ c ∈ key.toList.head?, isEdge c = false) (hreserved : isReserved key.toList = false)
      (hword : Text.lowercaseChars word = key.toList) : Calls user word
  /-- A keyword of the user beyond ASCII inside a word that is no emoji. -/
  | inside {word : List Char} {key : String} (hkey : key ∈ user.preferences.mentionKeys)
      (hbeyond : ∃ c ∈ key.toList, 128 ≤ c.val) (halphanumeric : ∀ c ∈ key.toList, c.isAlphanumeric = true)
      (hinside : key.toList <:+: word) (hemoji : ¬ (word.head? = some ':' ∧ word.getLast? = some ':')) :
      Calls user word

theorem isRun_iff {run fragment : List Char} :
    IsRun run fragment ↔ run ≠ [] ∧ Text.IsStretch (fun c => !isWordChar c) run fragment := by
  constructor
  · rintro ⟨hne, hchars, before, after, heq, hbefore, hafter⟩
    exact ⟨hne, by simpa using hchars, before, after, heq, by simpa using hbefore, by simpa using hafter⟩
  · rintro ⟨hne, hclear, before, after, heq, hbefore, hafter⟩
    exact ⟨hne, by simpa using hclear, before, after, heq, by simpa using hbefore, by simpa using hafter⟩

theorem IsRun.mem_splitOnP {word fragment : List Char} (hrun : IsRun word fragment) :
    word ∈ fragment.splitOnP fun c => !isWordChar c :=
  (isRun_iff.1 hrun).2.mem_splitOnP

/-- Of a run that is no emoji the scanner takes what stands behind the punctuation in front. -/
theorem IsRun.dropWhile_mem_words {word fragment : List Char} (hrun : IsRun word fragment)
    (hemoji : isEmoji word = false) (hdrop : word.dropWhile isEdge ≠ []) :
    word.dropWhile isEdge ∈ words fragment := by
  refine List.mem_filter.2 ⟨List.mem_map.2 ⟨word, List.mem_filter.2 ⟨hrun.mem_splitOnP, ?_⟩, rfl⟩, ?_⟩
  · simp [hemoji, hrun.ne_nil]
  · simpa using hdrop

/-- A run without punctuation in front is taken as it is. -/
theorem IsRun.mem_words {word fragment : List Char} (hrun : IsRun word fragment)
    (hstart : ∀ c ∈ word.head?, isEdge c = false) : word ∈ words fragment := by
  cases word with
  | nil => exact absurd rfl hrun.ne_nil
  | cons c rest =>
    have hc : isEdge c = false := hstart c rfl
    have hcolon : c ≠ ':' := by
      rintro rfl
      cases hc
    have hdrop : (c :: rest).dropWhile isEdge = c :: rest := by simp [hc]
    have hemoji : isEmoji (c :: rest) = false := by simp [isEmoji, hcolon]
    have hmem := hrun.dropWhile_mem_words hemoji (by simp [hdrop])
    rwa [hdrop] at hmem

private theorem ne_reserved_of_not_isReserved {word : List Char} (hword : isReserved word = false) :
    String.ofList word ≠ Reserved.here ∧ String.ofList word ≠ Reserved.channel ∧
      String.ofList word ≠ Reserved.all := by
  refine ⟨?_, ?_, ?_⟩ <;>
  · intro heq
    rw [← String.toList_ofList (l := word), heq] at hword
    exact absurd hword (by decide)

/-- A word whose lower case is a keyword, and not reserved, is found as that keyword. -/
theorem exists_wholeFindings_of_lowercase {index : KeywordIndex} {word key : List Char} {user : Id}
    (hlower : Text.lowercaseChars word = key) (hreserved : isReserved key = false)
    (huser : user ∈ (index.get? (String.ofList key)).getD []) :
    ∃ finding ∈ wholeFindings index word, finding.names user = true := by
  obtain ⟨users, hget, hmem⟩ := KeywordIndex.mem_getD_iff.1 huser
  obtain ⟨hhere, hchannel, hall⟩ := ne_reserved_of_not_isReserved hreserved
  have hbound : bound? index word =
      some (.keyword users (String.ofList (key.dropWhile (· = '@')))) := by
    simp [bound?, hlower, hhere, hchannel, hall, hget]
  refine ⟨.keyword users (String.ofList (key.dropWhile (· = '@'))), ?_, ?_⟩
  · -- The word itself is the longest of its forms.
    rw [wholeFindings, forms, List.findSome?_cons, hbound]
    exact List.mem_singleton_self _
  · simpa [Finding.names] using hmem

theorem exists_insideFindings {index : KeywordIndex} {word : List Char} {key : String} {user : Id}
    (hbeyond : ∃ c ∈ key.toList, 128 ≤ c.val) (hinside : key.toList <:+: word)
    (huser : user ∈ (index.get? key).getD []) :
    ∃ finding ∈ insideFindings index word, finding.names user = true := by
  obtain ⟨users, hget, hmem⟩ := KeywordIndex.mem_getD_iff.1 huser
  have hoccurs : Text.occursIn key.toList word = true := Text.occursIn_iff.2 hinside
  have husers : users ≠ [] := List.ne_nil_of_mem hmem
  refine ⟨.inside users, List.mem_filterMap.2 ⟨(key, users), Table.get?_eq_some_iff.1 hget, ?_⟩, ?_⟩
  · simp [hoccurs, husers, hbeyond]
  · simpa [Finding.names] using hmem

private theorem toLower_val_lt_iff {c : Char} : c.toLower.val < 128 ↔ c.val < 128 := by
  unfold Char.toLower
  split
  · next hupper =>
    -- A capital letter moves up by 32, and stays in ASCII.
    obtain ⟨hge, hle⟩ := hupper
    grind
  · rfl

private theorem val_lt_of_isNameChar {c : Char} (hc : isNameChar c = true) : c.val < 128 := by
  simp only [isNameChar, Bool.or_eq_true, decide_eq_true_eq] at hc
  rcases hc with ((hletter | rfl) | rfl) | rfl
  · have hranges : (decide (c.val ≥ 'A'.val ∧ c.val ≤ 'Z'.val) || (c.val ≥ 'a'.val && c.val ≤ 'z'.val) ||
        (c.val ≥ '0'.val && c.val ≤ '9'.val)) = true := hletter
    have hle : c.val ≤ 'z'.val := by grind
    exact UInt32.lt_of_le_of_lt hle (by decide)
  all_goals decide

/-- A word that differs from an ASCII one in ASCII letter case alone has the same lower case. -/
theorem lowercaseChars_of_map_toLower {word name : List Char} (hascii : ∀ c ∈ name, c.val < 128)
    (hname : word.map Char.toLower = name.map Char.toLower) :
    Text.lowercaseChars word = name.map Char.toLower := by
  have hword : ∀ c ∈ word, c.val < 128 := by
    intro c hc
    have hmem : c.toLower ∈ name.map Char.toLower := hname ▸ List.mem_map_of_mem hc
    obtain ⟨d, hd, hsame⟩ := List.mem_map.1 hmem
    rw [← toLower_val_lt_iff, ← hsame, toLower_val_lt_iff]
    exact hascii d hd
  rw [Text.lowercaseChars, Text.lowerAfter_eq_map_of_ascii hword, hname]

private theorem toLower_toLower {c : Char} : c.toLower.toLower = c.toLower := by
  unfold Char.toLower
  split
  · next hupper =>
    obtain ⟨hge, hle⟩ := hupper
    grind
  · rfl

theorem isReserved_map_toLower (word : List Char) : isReserved (word.map Char.toLower) = isReserved word := by
  have hidempotent : Char.toLower ∘ Char.toLower = Char.toLower := funext fun _ => toLower_toLower
  simp only [isReserved, List.map_map, hidempotent]

theorem isEdge_of_isAlphanumeric {c : Char} (hc : c.isAlphanumeric = true) : isEdge c = false := by
  refine Bool.eq_false_iff.2 fun hedge => ?_
  simp only [isEdge, Bool.or_eq_true, decide_eq_true_eq] at hedge
  rcases hedge with ((rfl | rfl) | rfl) | rfl <;> exact absurd hc (by decide)

/-- Lower case leaves the punctuation in front of a word as it is. -/
theorem head?_lowercaseChars_of_isEdge {c : Char} (hc : isEdge c = true) (rest : List Char) :
    (Text.lowercaseChars (c :: rest)).head? = some c := by
  simp only [isEdge, Bool.or_eq_true, decide_eq_true_eq] at hc
  rcases hc with ((rfl | rfl) | rfl) | rfl <;> rfl

theorem infix_dropWhile {p : Char → Bool} {part text : List Char} (hne : part ≠ [])
    (hpart : ∀ c ∈ part, p c = false) (hoccurs : part <:+: text) : part <:+: text.dropWhile p := by
  obtain ⟨before, after, rfl⟩ := hoccurs
  have hstays : (part ++ after).dropWhile p = part ++ after := by
    cases part with
    | nil => exact absurd rfl hne
    | cons c rest => simp [hpart c]
  rw [List.append_assoc, List.dropWhile_append, hstays]
  split
  · exact ⟨[], after, rfl⟩
  · exact ⟨before.dropWhile p, after, List.append_assoc ..⟩

private theorem lowercaseChars_ne_nil {text : List Char} (htext : text ≠ []) : Text.lowercaseChars text ≠ [] := by
  cases text with
  | nil => exact absurd rfl htext
  | cons c rest =>
    simp only [Text.lowercaseChars, Text.lowerAfter]
    split
    · simp
    · simp [Text.lowered_ne_nil c]

theorem ne_empty_of_mem_mentionKeys_read {settings : Table String String} {key : String}
    (hkey : key ∈ (UserPreferences.read settings).mentionKeys) : key ≠ "" := by
  simp only [UserPreferences.read] at hkey
  cases hkeys : settings.get? "mention_keys" with
  | none => simp [hkeys] at hkey
  | some text =>
    rw [hkeys] at hkey
    obtain ⟨word, -, hread⟩ := List.mem_filterMap.1 hkey
    obtain ⟨hword, hlowered⟩ := Option.ite_none_left_eq_some.1 hread
    cases hlowered
    have hlower := lowercaseChars_ne_nil (by simpa using hword)
    simpa [← String.toList_inj] using hlower

/-- A run whose lower case is a keyword of the user, and neither reserved nor with punctuation in front, is
found as that keyword. -/
theorem IsRun.exists_names_of_lowercase {index : KeywordIndex} {word : List Char} {fragment : String}
    {key : String} {user : Id} (hrun : IsRun word fragment.toList) (hlower : Text.lowercaseChars word = key.toList)
    (hstart : ∀ c ∈ key.toList.head?, isEdge c = false) (hreserved : isReserved key.toList = false)
    (huser : user ∈ (index.get? key).getD []) :
    ∃ finding ∈ fragmentFindings index fragment, finding.names user = true := by
  have hedge : ∀ c ∈ word.head?, isEdge c = false := by
    intro c hc
    obtain ⟨rest, rfl⟩ := List.head?_eq_some_iff.1 hc
    refine Bool.eq_false_iff.2 fun hedge => ?_
    have hhead := head?_lowercaseChars_of_isEdge hedge rest
    rw [hlower] at hhead
    exact absurd hedge (Bool.eq_false_iff.1 (hstart c hhead))
  obtain ⟨finding, hfinding, hnames⟩ := exists_wholeFindings_of_lowercase hlower hreserved
    (by rwa [String.ofList_toList])
  exact ⟨finding, List.mem_flatMap.2 ⟨word, hrun.mem_words hedge, List.mem_append_left _ hfinding⟩, hnames⟩

/-- A run that is no emoji and has inside it an alphanumeric keyword of the user beyond ASCII is found to
have it. -/
theorem IsRun.exists_names_of_infix {index : KeywordIndex} {word : List Char} {fragment : String}
    {key : String} {user : Id} (hrun : IsRun word fragment.toList) (hbeyond : ∃ c ∈ key.toList, 128 ≤ c.val)
    (halphanumeric : ∀ c ∈ key.toList, c.isAlphanumeric = true) (hinside : key.toList <:+: word)
    (hemoji : isEmoji word = false) (huser : user ∈ (index.get? key).getD []) :
    ∃ finding ∈ fragmentFindings index fragment, finding.names user = true := by
  have hkey : key.toList ≠ [] := by
    obtain ⟨c, hc, -⟩ := hbeyond
    exact List.ne_nil_of_mem hc
  -- Nothing of the keyword is lost with the punctuation in front.
  have hdropped : key.toList <:+: word.dropWhile isEdge :=
    infix_dropWhile hkey (fun c hc => isEdge_of_isAlphanumeric (halphanumeric c hc)) hinside
  have hword : word.dropWhile isEdge ∈ words fragment.toList := by
    refine hrun.dropWhile_mem_words hemoji fun hnil => hkey ?_
    rw [hnil] at hdropped
    exact List.infix_nil.1 hdropped
  obtain ⟨finding, hfinding, hnames⟩ := exists_insideFindings hbeyond hdropped huser
  exact ⟨finding, List.mem_flatMap.2 ⟨_, hword, List.mem_append_right _ hfinding⟩, hnames⟩

/-- Whatever calls a member is found to name the member. -/
theorem IsRun.exists_names_of_calls {profiles : Table Id User} {allowed : Bool}
    {preferences : Table Id ChannelPreferences} {presence : Table Id Presence} {word : List Char}
    {fragment : String} {user : User} (hrun : IsRun word fragment.toList) (huser : user ∈ profiles.values)
    (hcalls : Calls user word) :
    ∃ finding ∈ fragmentFindings (KeywordIndex.build profiles allowed preferences presence) fragment,
      finding.names user.id = true := by
  cases hcalls with
  | @username name hchars hreserved hname =>
    have hascii : ∀ c ∈ user.username.toList, c.val < 128 := fun c hc => val_lt_of_isNameChar (hchars c hc)
    have hlower : Text.lowercaseChars ('@' :: name) = ('@' :: user.username.toList).map Char.toLower :=
      lowercaseChars_of_map_toLower (List.forall_mem_cons.2 ⟨by decide, hascii⟩) (by simp [hname])
    have hkey : ("@" ++ Text.lowercase user.username).toList = ('@' :: user.username.toList).map Char.toLower := by
      simp [Text.lowercase, lowercaseChars_of_map_toLower hascii rfl]
    refine hrun.exists_names_of_lowercase (hlower.trans hkey.symm) ?_ ?_ (KeywordIndex.mem_build_username huser)
    · simp [hkey, isEdge]
    · rw [hkey, isReserved_map_toLower]
      exact hreserved
  | @keyword _ key hkey hstart hreserved hlower =>
    exact hrun.exists_names_of_lowercase hlower hstart hreserved (KeywordIndex.mem_build_key huser hkey)
  | @inside _ key hkey hbeyond halphanumeric hinside hcolons =>
    have hemoji : isEmoji word = false := by
      refine Bool.eq_false_iff.2 fun hemoji => hcolons ?_
      simp only [isEmoji, Bool.and_eq_true, decide_eq_true_eq] at hemoji
      exact ⟨hemoji.1.2, hemoji.2⟩
    exact hrun.exists_names_of_infix hbeyond halphanumeric hinside hemoji (KeywordIndex.mem_build_key huser hkey)

theorem textFragments_empty : Markup.textFragments "" = [] := by
  decide +kernel

/-- Whatever the members, their preferences for the channel and their presence, and whether mentions of the
whole channel count or not: a run of word characters that calls a member, in any fragment of any text, leaves
the member mentioned, whatever stands around it and in the other texts. -/
theorem mentioned_of_calls (profiles : Table Id User) (allowed : Bool)
    (preferences : Table Id ChannelPreferences) (presence : Table Id Presence) (fields : List String)
    {field fragment : String} {word : List Char} {user : User} (huser : user ∈ profiles.values)
    (hfield : field ∈ fields) (hfragment : fragment ∈ Markup.textFragments field)
    (hrun : IsRun word fragment.toList) (hcalls : Calls user word) :
    ∃ kind, (inFields (KeywordIndex.build profiles allowed preferences presence) fields).kind? user.id =
      some kind := by
  have hne : field ≠ "" := by
    rintro rfl
    rw [textFragments_empty] at hfragment
    cases hfragment
  obtain ⟨finding, hfinding, hnames⟩ := hrun.exists_names_of_calls huser hcalls
  -- Later findings may change the kind of the member, but take no mention back.
  refine exists_kind?_account_iff.2 ⟨finding, List.mem_flatMap.2 ⟨field, hfield, ?_⟩, .inl hnames⟩
  rw [fieldFindings, if_neg hne]
  exact List.mem_flatMap.2 ⟨fragment, hfragment, hfinding⟩

/-- A username that ends in a dot is found in capitals, with its dot and behind other text. -/
theorem mentioned_by_dotted_name_in_capitals :
    let bob : User := { id := ⟨2⟩, username := "Bob." }
    let profiles := (∅ : Table Id User).insert ⟨2⟩ bob
    bob ∈ profiles.values ∧ "hi @BOB., there" ∈ Markup.textFragments "hi @BOB., there" ∧
      IsRun "@BOB.".toList "hi @BOB., there".toList ∧ Calls bob "@BOB.".toList ∧
      ∃ kind, (inFields (KeywordIndex.build profiles false ∅ ∅) ["hi @BOB., there"]).kind? ⟨2⟩ = some kind := by
  intro bob profiles
  have hmember : bob ∈ profiles.values := List.mem_singleton_self bob
  have hfragment : "hi @BOB., there" ∈ Markup.textFragments "hi @BOB., there" := by decide +kernel
  have hrun : IsRun "@BOB.".toList "hi @BOB., there".toList :=
    { ne_nil := by simp
      chars := List.all_eq_true.1 (by decide)
      bounded := ⟨"hi ".toList, ", there".toList, rfl, by rintro c ⟨⟩; rfl, by rintro c ⟨⟩; rfl⟩ }
  have hcalls : Calls bob "@BOB.".toList :=
    Calls.username (List.all_eq_true.1 (by decide)) (by decide) (by decide)
  exact ⟨hmember, hfragment, hrun, hcalls,
    mentioned_of_calls profiles false ∅ ∅ ["hi @BOB., there"] hmember (List.mem_singleton_self _) hfragment hrun hcalls⟩

end ChatNotify.Mention
