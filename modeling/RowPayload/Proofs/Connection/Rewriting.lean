import RowPayload.Proofs.Session.Reopening
import RowPayload.Proofs.Sql.Rendering
import RowPayload.Proofs.Text.Cutting

/-!
# Settings written and read

The connection string of settings is read pair by pair, and each pair sets its own field. Texts
lose the blanks at their ends and a time-out what it has beyond full seconds; apart from that
settings come back as they were said, as long as no text has a semicolon, which would end its
pair.
-/

namespace RowPayload

/-- A text without the blanks at its ends. -/
def Text.trimmed (text : String) : String := String.ofList (Text.trim text.toList)

namespace Settings

/-! ## What is said -/

/-- The settings that are said: next to integrated security there is no login. -/
def spoken (settings : Settings) : Settings :=
  if settings.integratedSecurity then { settings with userId := none, password := none }
  else settings

/-- The texts that are said. -/
def said (settings : Settings) : List String :=
  [settings.server] ++ settings.database.toList ++
    settings.spoken.userId.toList ++ settings.spoken.password.toList ++
    settings.applicationName.toList

/-- The settings that are said, with every text without the blanks at its ends and the time-out in
full seconds. -/
def rewritten (settings : Settings) : Settings where
  server := Text.trimmed settings.server
  database := settings.database.map Text.trimmed
  integratedSecurity := settings.integratedSecurity
  userId := settings.spoken.userId.map Text.trimmed
  password := settings.spoken.password.map Text.trimmed
  applicationName := settings.applicationName.map Text.trimmed
  connectTimeout := ⟨settings.connectTimeout.seconds, 0⟩
  encrypt := settings.encrypt
  trustServerCertificate := settings.trustServerCertificate

/-! ## Pairs -/

/-- The key as it is written. -/
def Key.written : Key → String
  | .server => "Server"
  | .database => "Database"
  | .integratedSecurity => "Integrated Security"
  | .userId => "User Id"
  | .password => "Password"
  | .applicationName => "Application Name"
  | .connectTimeout => "Connect Timeout"
  | .encrypt => "Encrypt"
  | .trustServerCertificate => "TrustServerCertificate"

/-- Every key is written without an equals sign, a semicolon or blanks at its ends, and is read as
itself. -/
theorem Key.written_reads (key : Key) :
    '=' ∉ key.written.toList ∧ ';' ∉ key.written.toList ∧
      key.written.toList.head?.map Text.isBlank = some false ∧
      Text.trim key.written.toList = key.written.toList ∧
      Key.names.lookup (String.ofList (Text.lower key.written.toList)) = some key := by
  cases key <;> decide +kernel

/-- The characters of a pair. -/
theorem toList_pair (key value : String) :
    (pair key value).toList = key.toList ++ '=' :: value.toList := by
  simp [pair]

/-- The pair of a key sets what the key stands for, to the value without the blanks at its ends. -/
theorem Reading.step_pair (reading : Reading) (key : Key) (value : String) :
    reading.step (pair key.written value).toList =
      (reading.settings.assign key key.written.toList (Text.trim value.toList)).map fun settings =>
        ⟨settings, reading.sawServer || key = .server⟩ := by
  obtain ⟨plain, -, first, trimmed, known⟩ := key.written_reads
  have text : Text.trim (pair key.written value).toList =
      key.written.toList ++ '=' :: Text.trimEnd value.toList := by
    obtain ⟨c, head, solid⟩ := Option.map_eq_some_iff.1 first
    obtain ⟨rest, spelled⟩ := List.head?_eq_some_iff.1 head
    rw [toList_pair, Text.trim, spelled, List.cons_append, Text.trimStart_cons solid,
      ← List.cons_append, Text.trimEnd_append (by decide)]
  have something : (key.written.toList ++ '=' :: Text.trimEnd value.toList).isEmpty = false := by
    simp
  simp only [step, text, something, Text.cutFirst_append plain, trimmed, known, Text.trim_trimEnd]
  rfl

/-! ## Pairs one after another -/

/-- A text that may be said, read where nothing was said yet. -/
theorem foldlM_texts {key : Key} {put : Option String → Settings → Settings}
    (puts : ∀ settings name value, assign settings key name value =
      .ok (put (some (String.ofList value)) settings))
    (other : key ≠ .server) (text : Option String) {reading : Reading}
    (unsaid : put none reading.settings = reading.settings) :
    ((text.toList.map (pair key.written)).map String.toList).foldlM Reading.step reading =
      .ok ⟨put (text.map Text.trimmed) reading.settings, reading.sawServer⟩ := by
  cases text with
  | none =>
    rw [Option.map_none, unsaid]
    rfl
  | some text =>
    simp only [Option.toList_some, List.map_cons, List.map_nil, List.foldlM_cons, List.foldlM_nil,
      Reading.step_pair, puts, Except.map]
    simp [other, Text.trimmed, bind, Except.bind, pure, Except.pure]

/-- A truth value that is said only if it is true, read where nothing was said yet. -/
theorem foldlM_flag {key : Key} {put : Bool → Settings → Settings}
    (puts : ∀ settings name, assign settings key name "true".toList = .ok (put true settings))
    (other : key ≠ .server) (flag : Bool) {reading : Reading}
    (unsaid : put false reading.settings = reading.settings) :
    ((if flag then [pair key.written "true"] else []).map String.toList).foldlM Reading.step
        reading =
      .ok ⟨put flag reading.settings, reading.sawServer⟩ := by
  have word : Text.trim "true".toList = "true".toList := by decide
  cases flag with
  | false =>
    rw [unsaid]
    rfl
  | true =>
    simp only [if_true, List.map_cons, List.map_nil, List.foldlM_cons, List.foldlM_nil,
      Reading.step_pair, word, puts, Except.map]
    simp [other, bind, Except.bind, pure, Except.pure]

/-- The digits of a number that is small enough count it. -/
theorem counter?_toString {number bound : Nat} (small : number < bound) :
    Text.counter? bound (toString number).toList = some number := by
  have digits : ∀ c ∈ (toString number).toList, c.isDigit = true := fun c => Sql.isDigit_toString
  have unsigned : Text.counter? bound (toString number).toList =
      (Text.natural? (toString number).toList).filter (· < bound) := by
    unfold Text.counter?
    split
    · rename_i rest signed
      have plus := digits '+' (by rw [signed]; simp)
      exact absurd plus (by decide)
    · rfl
  rw [unsigned, Sql.natural?_toString]
  simp [small]

/-- A pair for full seconds. -/
theorem step_seconds {seconds : Nat} (small : seconds < secondsBound) (reading : Reading) :
    reading.step (pair Key.connectTimeout.written (toString seconds)).toList =
      .ok ⟨{ reading.settings with connectTimeout := ⟨seconds, 0⟩ }, reading.sawServer⟩ := by
  have solid : Text.trim (toString seconds).toList = (toString seconds).toList :=
    Text.trim_solid fun c member => Sql.isBlank_of_isDigit (Sql.isDigit_toString member)
  rw [Reading.step_pair, solid, assign, counter?_toString small]
  simp [Except.map]

/-- The pairs of settings, by what is said in them. -/
theorem pairs_eq (settings : Settings) :
    settings.pairs = [pair Key.server.written settings.server] ++
      settings.database.toList.map (pair Key.database.written) ++
      (if settings.integratedSecurity then [pair Key.integratedSecurity.written "true"] else []) ++
      settings.spoken.userId.toList.map (pair Key.userId.written) ++
      settings.spoken.password.toList.map (pair Key.password.written) ++
      settings.applicationName.toList.map (pair Key.applicationName.written) ++
      [pair Key.connectTimeout.written (toString settings.connectTimeout.seconds)] ++
      (if settings.encrypt then [pair Key.encrypt.written "true"] else []) ++
      (if settings.trustServerCertificate then [pair Key.trustServerCertificate.written "true"]
        else []) := by
  unfold pairs spoken
  cases settings.integratedSecurity <;> simp [Key.written]

/-- The pairs of settings that are said, read one after another, say them again. -/
theorem foldlM_pairs (settings : Settings) (small : settings.connectTimeout.seconds < secondsBound) :
    (settings.pairs.map String.toList).foldlM Reading.step Reading.start =
      .ok ⟨settings.rewritten, true⟩ := by
  have server (reading : Reading) :
      ([pair Key.server.written settings.server].map String.toList).foldlM Reading.step reading =
        .ok ⟨{ reading.settings with server := Text.trimmed settings.server }, true⟩ := by
    simp [Reading.step_pair, assign, Except.map, Text.trimmed, bind, Except.bind, pure, Except.pure]
  have seconds (reading : Reading) :
      ([pair Key.connectTimeout.written (toString settings.connectTimeout.seconds)].map
        String.toList).foldlM Reading.step reading = .ok ⟨{ reading.settings with
          connectTimeout := ⟨settings.connectTimeout.seconds, 0⟩ }, reading.sawServer⟩ := by
    show (reading.step (pair Key.connectTimeout.written
      (toString settings.connectTimeout.seconds)).toList >>= fun reading => pure reading) = _
    rw [step_seconds small]
    rfl
  have database := @foldlM_texts .database (fun text settings =>
    { settings with database := text }) (fun _ _ _ => rfl) (by decide)
  have userId := @foldlM_texts .userId (fun text settings =>
    { settings with userId := text }) (fun _ _ _ => rfl) (by decide)
  have password := @foldlM_texts .password (fun text settings =>
    { settings with password := text }) (fun _ _ _ => rfl) (by decide)
  have applicationName := @foldlM_texts .applicationName (fun text settings =>
    { settings with applicationName := text }) (fun _ _ _ => rfl) (by decide)
  have integrated := @foldlM_flag .integratedSecurity (fun flag settings =>
    { settings with integratedSecurity := flag }) (fun _ _ => rfl) (by decide)
  have encrypt := @foldlM_flag .encrypt (fun flag settings =>
    { settings with encrypt := flag }) (fun _ _ => rfl) (by decide)
  have trust := @foldlM_flag .trustServerCertificate (fun flag settings =>
    { settings with trustServerCertificate := flag }) (fun _ _ => rfl) (by decide)
  rw [pairs_eq]
  simp only [List.map_append, List.foldlM_append, server, Reading.start, standard, bind, Except.bind]
  rw [database _ rfl]
  simp only
  rw [integrated _ rfl]
  simp only
  rw [userId _ rfl]
  simp only
  rw [password _ rfl]
  simp only
  rw [applicationName _ rfl]
  simp only [seconds]
  rw [encrypt _ rfl]
  simp only
  rw [trust _ rfl]
  rfl

/-! ## Connection strings -/

/-- A pair has a semicolon only in its value. -/
theorem unbroken_pair (key : Key) {value : String} (unbroken : ';' ∉ value.toList) :
    ';' ∉ (pair key.written value).toList := by
  obtain ⟨-, plain, -⟩ := key.written_reads
  rw [toList_pair, List.mem_append, List.mem_cons]
  rintro (inKey | inSign | inValue)
  · exact plain inKey
  · exact absurd inSign (by decide)
  · exact unbroken inValue

/-- The pairs of settings have no semicolon if the texts that are said have none. -/
theorem unbroken_pairs {settings : Settings} (unbroken : ∀ text ∈ settings.said, ';' ∉ text.toList)
    {piece : List Char} (member : piece ∈ settings.pairs.map String.toList) : ';' ∉ piece := by
  obtain ⟨written, listed, rfl⟩ := List.mem_map.1 member
  have digits : ';' ∉ (toString settings.connectTimeout.seconds).toList := fun inDigits =>
    absurd (Sql.isDigit_toString inDigits) (by decide)
  have word : ';' ∉ "true".toList := by decide
  have texts {key : Key} {text : Option String} (said : ∀ value ∈ text, value ∈ settings.said)
      (paired : written ∈ text.toList.map (pair key.written)) : ';' ∉ written.toList := by
    obtain ⟨value, present, rfl⟩ := List.mem_map.1 paired
    exact unbroken_pair key (unbroken value (said value (Option.mem_toList.1 present)))
  rw [pairs_eq] at listed
  simp only [List.mem_append] at listed
  rcases listed with (((((((inServer | inDatabase) | inSecurity) | inUser) | inPassword) |
    inName) | inTimeout) | inEncrypt) | inTrust
  · obtain rfl := List.mem_singleton.1 inServer
    exact unbroken_pair .server (unbroken _ (by simp [said]))
  · exact texts (fun value present => by simp_all [said]) inDatabase
  · split at inSecurity
    · obtain rfl := List.mem_singleton.1 inSecurity
      exact unbroken_pair .integratedSecurity word
    · cases inSecurity
  · exact texts (fun value present => by simp_all [said]) inUser
  · exact texts (fun value present => by simp_all [said]) inPassword
  · exact texts (fun value present => by simp_all [said]) inName
  · obtain rfl := List.mem_singleton.1 inTimeout
    exact unbroken_pair .connectTimeout digits
  · split at inEncrypt
    · obtain rfl := List.mem_singleton.1 inEncrypt
      exact unbroken_pair .encrypt word
    · cases inEncrypt
  · split at inTrust
    · obtain rfl := List.mem_singleton.1 inTrust
      exact unbroken_pair .trustServerCertificate word
    · cases inTrust

/-- What settings have to be to be valid. -/
theorem validate_iff (settings : Settings) :
    settings.validate = .ok () ↔ Text.trim settings.server.toList ≠ [] ∧
      (settings.integratedSecurity = true ∨ settings.userId.isSome) ∧
      settings.connectTimeout.isZero = false := by
  unfold validate
  cases Text.trim settings.server.toList <;> cases settings.integratedSecurity <;>
    cases settings.userId <;> cases settings.connectTimeout.isZero <;> simp

/-- Settings that are valid stay so when they are written and read, if their time-out has a full
second. -/
theorem validate_rewritten {settings : Settings} (valid : settings.validate = .ok ())
    (long : 1 ≤ settings.connectTimeout.seconds) : settings.rewritten.validate = .ok () := by
  obtain ⟨named, known, -⟩ := (validate_iff settings).1 valid
  refine (validate_iff settings.rewritten).2 ⟨?_, ?_, ?_⟩
  · show Text.trim (String.ofList (Text.trim settings.server.toList)).toList ≠ []
    rw [String.toList_ofList, Text.trim_trim]
    exact named
  · rcases known with integrated | user
    · exact .inl integrated
    · show settings.integratedSecurity = true ∨ (settings.spoken.userId.map Text.trimmed).isSome
      cases integrated : settings.integratedSecurity with
      | true => exact .inl rfl
      | false => simp [spoken, integrated, user]
  · have positive : settings.connectTimeout.seconds ≠ 0 := by omega
    simp [rewritten, Duration.isZero, positive]

/-- What is read from the connection string of settings. -/
theorem parse_connectionString {settings : Settings} (valid : settings.validate = .ok ())
    (unbroken : ∀ text ∈ settings.said, ';' ∉ text.toList)
    (long : 1 ≤ settings.connectTimeout.seconds)
    (small : settings.connectTimeout.seconds < secondsBound) :
    parse settings.connectionString = .ok settings.rewritten := by
  have some_pair : settings.pairs.map String.toList ≠ [] := by simp [pairs]
  have cut : Text.pieces ';' settings.connectionString.toList = settings.pairs.map String.toList := by
    rw [connectionString, String.toList_ofList]
    exact Text.pieces_join some_pair fun piece member => unbroken_pairs unbroken member
  rw [parse, cut, foldlM_pairs settings small]
  simp only [bind, Except.bind, if_true, validate_rewritten valid long, pure, Except.pure]

/-- A text that may be said is the same without blanks at its ends if it has none. -/
theorem map_trimmed_eq_self (text : Option String) :
    text.map Text.trimmed = text ↔ ∀ value ∈ text.toList, Text.trimmed value = value := by
  cases text <;> simp

/-- Settings are rewritten as they are said if and only if no text has blanks at its ends and the
time-out is in full seconds. -/
theorem rewritten_eq_spoken (settings : Settings) :
    settings.rewritten = settings.spoken ↔
      (∀ text ∈ settings.said, Text.trimmed text = text) ∧
        settings.connectTimeout.nanoseconds = 0 := by
  have parts : settings.spoken = { settings with
      userId := settings.spoken.userId, password := settings.spoken.password } := by
    unfold spoken
    split <;> rfl
  have timeout : (⟨settings.connectTimeout.seconds, 0⟩ : Duration) = settings.connectTimeout ↔
      settings.connectTimeout.nanoseconds = 0 := by
    obtain ⟨seconds, nanoseconds⟩ := settings.connectTimeout
    simp [eq_comm]
  rw [parts]
  simp only [rewritten, mk.injEq, map_trimmed_eq_self, timeout, true_and, and_true, said,
    List.mem_append, or_imp, forall_and, List.mem_singleton, forall_eq, and_assoc]

end Settings

namespace Sample

/-- Settings with a login, whose password has an equals sign and a blank inside. -/
def login : Settings :=
  { Settings.standard.login "app" "a = b" with server := "db01,1433", connectTimeout := ⟨30, 0⟩ }

/-- Settings whose server is named with a blank before it. -/
def padded : Settings := { Settings.standard with server := " db01" }

end Sample

end RowPayload
