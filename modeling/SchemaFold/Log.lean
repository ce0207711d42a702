/-! Log records, and results that come with the records written on the way to them, also when
the way ends in an error. -/

namespace SchemaFold

inductive Log.Level where
  | debug
  | info
  | warning
  deriving DecidableEq, Repr

def Log.Level.label : Log.Level → String
  | .debug => "DEBUG"
  | .info => "INFO"
  | .warning => "WARNING"

/-- The part of the program that a record comes from. -/
inductive Log.Channel where
  | schema
  | fold
  | declarations
  | generator
  deriving DecidableEq, Repr

def Log.Channel.label : Log.Channel → String
  | .schema => "gql_tsgen.core.loader"
  | .fold => "gql_tsgen.core.folder"
  | .declarations => "gql_tsgen.core.emitter"
  | .generator => "gql_tsgen.core.generator"

structure Log.Record where
  level : Log.Level
  channel : Log.Channel
  message : String
  deriving DecidableEq, Repr

def Log.Record.render (r : Log.Record) : String :=
  r.level.label ++ " " ++ r.channel.label ++ ": " ++ r.message

/-- A result with the records written before it was reached. -/
structure Traced (ε α : Type) where
  log : List Log.Record
  result : Except ε α

namespace Traced

def ofExcept {ε α : Type} (result : Except ε α) : Traced ε α :=
  ⟨[], result⟩

def fail {ε α : Type} (e : ε) : Traced ε α :=
  ⟨[], .error e⟩

def note {ε : Type} (level : Log.Level) (channel : Log.Channel) (message : String) :
    Traced ε Unit :=
  ⟨[⟨level, channel, message⟩], .ok ()⟩

def bind {ε α β : Type} (x : Traced ε α) (f : α → Traced ε β) : Traced ε β :=
  match x.result with
  | .error e => ⟨x.log, .error e⟩
  | .ok a =>
    let y := f a
    ⟨x.log ++ y.log, y.result⟩

instance {ε : Type} : Monad (Traced ε) where
  pure a := ⟨[], .ok a⟩
  bind := bind

def mapError {ε ε' α : Type} (f : ε → ε') (x : Traced ε α) : Traced ε' α :=
  ⟨x.log, x.result.mapError f⟩

@[simp]
theorem result_pure {ε α : Type} (a : α) : (pure a : Traced ε α).result = .ok a := rfl

@[simp]
theorem result_note {ε : Type} (l : Log.Level) (c : Log.Channel) (m : String) :
    (note l c m : Traced ε Unit).result = .ok () := rfl

@[simp]
theorem result_fail {ε α : Type} (e : ε) : (fail e : Traced ε α).result = .error e := rfl

@[simp]
theorem result_ofExcept {ε α : Type} (r : Except ε α) : (ofExcept r).result = r := rfl

/-- What a sequence yields does not depend on the records. -/
@[simp]
theorem result_bind {ε α β : Type} (x : Traced ε α) (f : α → Traced ε β) :
    (x >>= f).result = x.result >>= fun a => (f a).result := by
  obtain ⟨log, _ | a⟩ := x <;> rfl

end Traced
end SchemaFold
