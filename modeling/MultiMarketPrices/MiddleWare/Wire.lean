import MultiMarketPrices.MiddleWare.Interface

/-!
# Records on the wire

A record carries its headers as a list, in which a key may stand more than
once; a component hands over a map, in whatever order it is enumerated, or a
list of C strings with their sizes.  The consumption loop makes a map of the
list again, keeping the first value of a key.  Keys and values are read with
`toString` of Kafka's buffers, which is a parameter.
-/

namespace MultiMarketPrices.MiddleWare

/-- A record of the broker. -/
structure Packet where
  topic : String
  key : String
  headers : List (String × String)
  value : String
  deriving DecidableEq

/-! ## Sending -/

/-- `producerFunc` as it fills the record, `entries` being its headers. -/
def producerPacket (topic msgType key payload : String)
    (entries : List (String × String)) : APIError × List Packet :=
  if topic = "" then (.topicEmpty, [])
  else if msgType = "" then (.msgTypeEmpty, [])
  else if key = "" then (.keyEmpty, [])
  else
    (.ok, [{
      topic := topic
      key := key
      headers := (HeaderKey.messageType, msgType) :: entries
      value := payload }])

/-- The first bytes at a pointer. -/
def sized (text : String) (size : ℕ) : String :=
  String.ofList (text.toList.take size)

/-- A null pointer is `none`; a size is never larger than what is there. -/
def lowLevelProducerFunc (topic msgType key payload : Option String)
    (payloadSize : ℕ) (headers : List (String × String))
    (headerSizes : List ℕ) : APIError × List Packet :=
  match topic, msgType, key, payload with
  | none, _, _, _ => (.topicEmpty, [])
  | _, none, _, _ => (.msgTypeEmpty, [])
  | _, _, none, _ => (.keyEmpty, [])
  | _, _, _, none => (.payloadEmpty, [])
  | some topic, some msgType, some key, some payload =>
      (.ok, [{
        topic := Text.cStr topic
        key := Text.cStr key
        headers := (HeaderKey.messageType, Text.cStr msgType) ::
          List.zipWith (fun header size =>
            (Text.cStr header.1, sized header.2 size)) headers headerSizes
        value := sized payload payloadSize }])

/-! ## Receiving -/

/-- What `ConsumptionLoop::start` makes of a record. -/
def Packet.message (toString : String → String) (packet : Packet)
    (partition offset : ℤ) : Message :=
  let headers := (packet.headers.map fun header =>
    (header.1, toString header.2)).foldl Finmaps.emplace ∅
  { topic := packet.topic
    partition := partition
    offset := offset
    msgType := (headers.lookup HeaderKey.messageType).getD ""
    key := toString packet.key
    headers := headers
    payload := toString packet.value }

variable {toString : String → String}

theorem lookup_map_snd (entries : List (String × String)) (key : String) :
    (entries.map fun entry => (entry.1, toString entry.2)).lookup key =
      (entries.lookup key).map toString := by
  induction entries with
  | nil => rfl
  | cons entry entries ih =>
      obtain ⟨name, value⟩ := entry
      rw [List.map_cons, List.lookup_cons, List.lookup_cons, ih]
      cases key == name <;> rfl

theorem lookup_message (packet : Packet) (partition offset : ℤ)
    (key : String) :
    (packet.message toString partition offset).headers.lookup key =
      (packet.headers.lookup key).map toString := by
  simp only [Packet.message]
  rw [Finmaps.lookup_foldl_emplace, lookup_map_snd, Finmap.lookup_empty]
  rfl

/-- The message is the record as `toString` reads its texts. -/
structure Arrives (toString : String → String) (record : ProducerRecord)
    (message : Message) : Prop where
  htopic : message.topic = record.topic
  hmsgType : message.msgType =
    ((record.headers.lookup HeaderKey.messageType).map toString).getD ""
  hkey : message.key = toString record.key
  hheaders : ∀ name, message.headers.lookup name =
    (record.headers.lookup name).map toString
  hpayload : message.payload = toString record.value

/-- If nothing is lost in reading, the message is the one of the record. -/
theorem Arrives.message_eq {record : ProducerRecord} {message : Message}
    (harrives : Arrives id record message) :
    message =
      record.message message.partition message.offset := by
  obtain ⟨topic, partition, offset, msgType, key, headers, payload⟩ := message
  obtain ⟨htopic, hmsgType, hkey, hheaders, hpayload⟩ := harrives
  simp only [Option.map_id_fun, id_eq] at htopic hmsgType hkey hheaders hpayload
  obtain rfl : headers = record.headers := Finmap.ext_lookup hheaders
  subst htopic hmsgType hkey hpayload
  rfl

/-- The effect sends a record, and the packet arrives as that record; if reading
loses nothing, as the message that the record stands for. -/
def Delivers (toString : String → String) (partition offset : ℤ)
    (packet : Packet) (effect : Effect) : Prop :=
  ∃ record, effect = .send record ∧
    Arrives toString record (packet.message toString partition offset) ∧
    (toString = id → packet.message toString partition offset =
      record.message partition offset)

/-- A list whose first values are those of a map, with the type in front. -/
theorem arrives_packet (toString : String → String)
    (topic msgType key payload : String) {headers : KeyValuePairs}
    {entries : List (String × String)}
    (hentries : ∀ name, entries.lookup name = headers.lookup name)
    (partition offset : ℤ) :
    Arrives toString
      { topic := topic
        key := key
        headers := headers.insert HeaderKey.messageType msgType
        value := payload }
      (Packet.message toString
        { topic := topic
          key := key
          headers := (HeaderKey.messageType, msgType) :: entries
          value := payload } partition offset) := by
  have hlookup : ∀ name,
      ((HeaderKey.messageType, msgType) :: entries).lookup name =
        (headers.insert HeaderKey.messageType msgType).lookup name := by
    intro name
    rw [List.lookup_cons, hentries, Finmaps.lookup_insert_if]
    rcases eq_or_ne name HeaderKey.messageType with rfl | hname
    · rfl
    · rw [beq_eq_false_iff_ne.mpr hname, if_neg hname]
  have hheaders : ∀ name, (Packet.message toString
      { topic := topic
        key := key
        headers := (HeaderKey.messageType, msgType) :: entries
        value := payload } partition offset).headers.lookup name =
      ((headers.insert HeaderKey.messageType msgType).lookup name).map
        toString := by
    intro name
    rw [lookup_message, hlookup]
  exact ⟨rfl, congrArg (·.getD "") (hheaders HeaderKey.messageType), rfl,
    hheaders, rfl⟩

theorem sized_length (text : String) : sized text text.length = text := by
  rw [sized, ← String.length_toList, List.take_length, String.ofList_toList]

/-- C strings with their full sizes are the texts themselves. -/
theorem lowLevelProducerFunc_eq (topic msgType key payload : String)
    (entries : List (String × String))
    (hnul : ∀ text ∈ topic :: msgType :: key :: entries.map Prod.fst,
      '\x00' ∉ text.toList) :
    lowLevelProducerFunc (some topic) (some msgType) (some key) (some payload)
        payload.length entries (entries.map fun entry => entry.2.length) =
      (.ok, [{
        topic := topic
        key := key
        headers := (HeaderKey.messageType, msgType) :: entries
        value := payload }]) := by
  simp only [List.forall_mem_cons] at hnul
  obtain ⟨htopic, hmsgType, hkey, hnames⟩ := hnul
  have hheaders : List.zipWith (fun header size =>
      (Text.cStr header.1, sized header.2 size)) entries
        (entries.map fun entry => entry.2.length) = entries := by
    induction entries with
    | nil => rfl
    | cons entry entries ih =>
        rw [List.map_cons, List.forall_mem_cons] at hnames
        rw [List.map_cons, List.zipWith_cons_cons, ih hnames.2,
          Text.cStr_eq_self hnames.1, sized_length]
  simp only [lowLevelProducerFunc, Text.cStr_eq_self htopic,
    Text.cStr_eq_self hmsgType, Text.cStr_eq_self hkey, sized_length, hheaders]

/-- Whatever order the map of headers is enumerated in, the record that
`producerFunc` sends arrives with the texts that were given, each read once by
`toString`, under its own type even if a header has that name; and
`lowLevelProducerFunc` sends the same record if it is given the same texts as C
strings, with any further values of a header after the first. -/
theorem arrives_as_sent (toString : String → String)
    (topic msgType key payload : String) (headers : KeyValuePairs)
    (entries : List (String × String))
    (hentries : ∀ name, entries.lookup name = headers.lookup name)
    (partition offset : ℤ) :
    (producerPacket topic msgType key payload entries).1 =
        (producerFunc topic msgType key payload headers).1 ∧
      List.Forall₂ (Delivers toString partition offset)
        (producerPacket topic msgType key payload entries).2
        (producerFunc topic msgType key payload headers).2 ∧
      ((∀ text ∈ topic :: msgType :: key :: entries.map Prod.fst,
          '\x00' ∉ text.toList) →
        ∃ packet,
          lowLevelProducerFunc (some topic) (some msgType) (some key)
              (some payload) payload.length entries
              (entries.map fun entry => entry.2.length) = (.ok, [packet]) ∧
            Arrives toString
              { topic := topic
                key := key
                headers := headers.insert HeaderKey.messageType msgType
                value := payload }
              (packet.message toString partition offset)) := by
  refine ⟨?_, ?_, fun hnul => ?_⟩
  · rw [producerPacket, producerFunc]
    split_ifs <;> rfl
  · rw [producerPacket, producerFunc]
    split_ifs with htopic hmsgType hkey
    · exact .nil
    · exact .nil
    · exact .nil
    · have harrives := arrives_packet toString topic msgType key payload
        hentries partition offset
      refine .cons ⟨_, rfl, harrives, ?_⟩ .nil
      rintro rfl
      exact harrives.message_eq
  · exact ⟨_, lowLevelProducerFunc_eq topic msgType key payload entries hnul,
      arrives_packet toString topic msgType key payload hentries partition
        offset⟩

/-- A request with a header that has the name of the type. -/
theorem arrives_as_sent_of_request :
    List.Forall₂ (Delivers id 0 5)
      (producerPacket "gateway" MessageType.request "client" "prices"
        [(HeaderKey.messageType, "other"), (HeaderKey.reqId, "7")]).2
      (producerFunc "gateway" MessageType.request "client" "prices"
        ((Finmap.insert HeaderKey.reqId "7" ∅).insert HeaderKey.messageType
          "other")).2 := by
  refine (arrives_as_sent id "gateway" MessageType.request "client" "prices" _ _
    (fun name => ?_) 0 5).2.1
  rw [Finmaps.lookup_insert_if, Finmaps.lookup_insert_if, Finmap.lookup_empty,
    List.lookup_cons, List.lookup_cons]
  rcases eq_or_ne name HeaderKey.messageType with rfl | hname
  · rfl
  · rw [beq_eq_false_iff_ne.mpr hname, if_neg hname]
    rcases eq_or_ne name HeaderKey.reqId with rfl | hother
    · rfl
    · rw [beq_eq_false_iff_ne.mpr hother, if_neg hother]
      rfl

end MultiMarketPrices.MiddleWare
