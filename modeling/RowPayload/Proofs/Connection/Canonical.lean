import RowPayload.Proofs.Connection.Rewriting

/-!
# The canonical connection string

Whatever connection string is accepted, reading it leaves no blanks at the ends of a text and no
semicolon in it, since texts are cut at semicolons and trimmed, and the time-out is in full seconds.
So the settings that were read are written in a form that is read as the same settings, and written
again in the same form.
-/

namespace RowPayload

namespace Settings

/-! ## What is read -/

/-- A text as it stands in a connection string: without a semicolon and without blanks at its
ends. -/
def PlainText (text : String) : Prop := ';' ∉ text.toList ∧ Text.trimmed text = text

/-- Settings as they are read: every text, whether it is said or not, can stand in a connection
string as it is, and the time-out is a number of seconds. -/
structure Plain (settings : Settings) : Prop where
  server : PlainText settings.server
  database : ∀ text ∈ settings.database, PlainText text
  userId : ∀ text ∈ settings.userId, PlainText text
  password : ∀ text ∈ settings.password, PlainText text
  applicationName : ∀ text ∈ settings.applicationName, PlainText text
  whole : settings.connectTimeout.nanoseconds = 0
  small : settings.connectTimeout.seconds < secondsBound

variable {settings after : Settings} {reading next : Reading}

/-- A text that was trimmed, of a piece without a semicolon, is plain. -/
theorem plainText_trim {value : List Char} (unbroken : ';' ∉ value) :
    PlainText (String.ofList (Text.trim value)) := by
  rw [PlainText, Text.trimmed, String.toList_ofList, Text.trim_trim]
  exact ⟨fun member => unbroken ((Text.trim_sublist value).subset member), rfl⟩

/-- A number of seconds that was read is below the bound. -/
theorem counter?_lt {bound number : Nat} {text : List Char}
    (counted : Text.counter? bound text = some number) : number < bound :=
  of_decide_eq_true (Option.filter_eq_some_iff.1 counted).2

/-- Reading a pair keeps settings plain, if its value is. -/
theorem Plain.assign (plain : settings.Plain) {name : Key} {key value : List Char}
    (isPlain : PlainText (String.ofList value))
    (assigned : settings.assign name key value = .ok after) : after.Plain := by
  have text : ∀ other ∈ some (String.ofList value), PlainText other := by
    rintro _ ⟨⟩
    exact isPlain
  cases name with
  | server =>
    cases assigned
    exact { plain with server := isPlain }
  | database =>
    cases assigned
    exact { plain with database := text }
  | userId =>
    cases assigned
    exact { plain with userId := text }
  | password =>
    cases assigned
    exact { plain with password := text }
  | applicationName =>
    cases assigned
    exact { plain with applicationName := text }
  | integratedSecurity | encrypt | trustServerCertificate =>
    obtain ⟨truth, -, rfl⟩ := Checked.map_ok assigned
    exact { plain with }
  | connectTimeout =>
    unfold Settings.assign at assigned
    dsimp only at assigned
    split at assigned
    · rename_i seconds counted
      cases assigned
      exact { plain with whole := rfl, small := counter?_lt counted }
    · cases assigned

/-- Reading a piece without a semicolon keeps settings plain. -/
theorem Plain.step (plain : reading.settings.Plain) {piece : List Char} (unbroken : ';' ∉ piece)
    (stepped : reading.step piece = .ok next) : next.settings.Plain := by
  unfold Reading.step at stepped
  dsimp only at stepped
  split at stepped
  · cases stepped
    exact plain
  · split at stepped
    · cases stepped
    · rename_i before value cut
      split at stepped
      · cases stepped
      · obtain ⟨settings, assigned, rfl⟩ := Checked.map_ok stepped
        have inside : value.Sublist piece := by
          refine List.Sublist.trans ?_ (Text.trim_sublist piece)
          rw [Text.append_of_cutFirst cut]
          exact (List.sublist_cons_self _ _).trans (List.sublist_append_right _ _)
        exact plain.assign (plainText_trim fun member => unbroken (inside.subset member)) assigned

/-- Settings that a connection string spells out are plain, and valid. -/
theorem plain_of_parse {text : String} (parsed : parse text = .ok settings) :
    settings.Plain ∧ settings.validate = .ok () := by
  unfold parse at parsed
  obtain ⟨reading, folded, parsed⟩ := Checked.bind_ok parsed
  split at parsed
  · obtain ⟨⟨⟩, valid, parsed⟩ := Checked.bind_ok parsed
    cases parsed
    have start : Reading.start.settings.Plain :=
      ⟨⟨by decide, by decide⟩, nofun, nofun, nofun, nofun, rfl, by decide +kernel⟩
    refine ⟨Checked.foldlM_keeps (fun reading => reading.settings.Plain) folded
      (fun piece member before after stepped plain => ?_) start, valid⟩
    exact plain.step (Text.not_mem_of_mem_pieces piece member) stepped
  · cases parsed

/-! ## What is written -/

/-- Every text that is said of plain settings is plain. -/
theorem Plain.said (plain : settings.Plain) : ∀ text ∈ settings.said, PlainText text := by
  have login : settings.spoken.userId.toList ⊆ settings.userId.toList ∧
      settings.spoken.password.toList ⊆ settings.password.toList := by
    unfold spoken
    split <;> simp
  intro text member
  simp only [Settings.said, List.mem_append, List.mem_singleton] at member
  rcases member with (((rfl | database) | userId) | password) | name
  · exact plain.server
  · exact plain.database text (Option.mem_toList.1 database)
  · exact plain.userId text (Option.mem_toList.1 (login.1 userId))
  · exact plain.password text (Option.mem_toList.1 (login.2 password))
  · exact plain.applicationName text (Option.mem_toList.1 name)

/-- Settings that are valid and have a time-out in full seconds have one of a second at least. -/
theorem one_le_seconds (valid : settings.validate = .ok ())
    (whole : settings.connectTimeout.nanoseconds = 0) : 1 ≤ settings.connectTimeout.seconds := by
  obtain ⟨-, -, positive⟩ := (validate_iff settings).1 valid
  rw [Duration.isZero, whole] at positive
  have some : settings.connectTimeout.seconds ≠ 0 := by simpa using positive
  omega

/-- Settings are written as what is said of them is. -/
theorem connectionString_spoken (settings : Settings) :
    settings.spoken.connectionString = settings.connectionString := by
  have twice : settings.spoken.spoken = settings.spoken := by
    unfold spoken
    split <;> simp_all
  have same : settings.spoken.pairs = settings.pairs := by
    rw [pairs_eq, pairs_eq, twice]
    unfold spoken
    split <;> rfl
  rw [connectionString, connectionString, same]

end Settings

/-- **Every connection string that is accepted has a canonical form**: the one that its settings are
written in. It is read as the same settings, without a login next to integrated security, and these
are written in the same form. -/
theorem connectionString_canonical {text : String} {settings : Settings}
    (parsed : Settings.parse text = .ok settings) :
    Settings.parse settings.connectionString = .ok settings.spoken ∧
      settings.spoken.connectionString = settings.connectionString := by
  obtain ⟨plain, valid⟩ := Settings.plain_of_parse parsed
  have long := Settings.one_le_seconds valid plain.whole
  have read := Settings.parse_connectionString valid (fun text member => (plain.said text member).1)
    long plain.small
  have same : settings.rewritten = settings.spoken :=
    settings.rewritten_eq_spoken.2 ⟨fun text member => (plain.said text member).2, plain.whole⟩
  exact ⟨same ▸ read, settings.connectionString_spoken⟩

namespace Sample

/-- A connection string with other names for the keys, blanks, empty pairs, a repeated key, a value
with an equals sign and a login that integrated security makes superfluous. -/
def sprawling : String :=
  " ; Data Source = first ;address=db 01,1433;; UID = app;PWD=a=b ;" ++
    "TRUSTED_CONNECTION = SSPI; timeout=+007 ;app="

/-- The settings that it spells out. -/
def sprawled : Settings where
  server := "db 01,1433"
  database := none
  integratedSecurity := true
  userId := some "app"
  password := some "a=b"
  applicationName := some ""
  connectTimeout := ⟨7, 0⟩
  encrypt := false
  trustServerCertificate := false

end Sample

/-- A sprawling connection string has a canonical form. -/
theorem connectionString_canonical_sprawling :
    Settings.parse Sample.sprawling = .ok Sample.sprawled ∧
      Sample.sprawled.connectionString =
        "Server=db 01,1433;Integrated Security=true;Application Name=;Connect Timeout=7" ∧
      Settings.parse Sample.sprawled.connectionString =
        .ok { Sample.sprawled with userId := none, password := none } := by
  have parsed : Settings.parse Sample.sprawling = .ok Sample.sprawled :=
    Checked.eq_ok_of_toOption (by decide +kernel)
  exact ⟨parsed, by decide +kernel, (connectionString_canonical parsed).1⟩

end RowPayload
