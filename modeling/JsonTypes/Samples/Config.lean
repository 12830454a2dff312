import JsonTypes.Json.Decoder

/-!
# Settings of inference

Which rules apply when samples become types. A record of settings has a JSON form in which every
setting may be left out.
-/

namespace JsonTypes

structure InferenceConfig where
  /-- Strings of few distinct values become enums. -/
  inferEnums : Bool
  /-- Strings that are all dates, or all times, keep that format. -/
  inferDates : Bool
  /-- Every top level has a node of its own. -/
  fixedTopLevels : Bool
  /-- How many levels below its root a sample may have. -/
  maxDepth : Nat
deriving DecidableEq, Repr

namespace InferenceConfig

def default : InferenceConfig := ⟨true, true, false, 64⟩

instance : Inhabited InferenceConfig := ⟨default⟩

/-! ## Building a configuration from the default one -/

def withInferEnums (c : InferenceConfig) (b : Bool) : InferenceConfig := { c with inferEnums := b }

def withInferDates (c : InferenceConfig) (b : Bool) : InferenceConfig := { c with inferDates := b }

def withFixedTopLevels (c : InferenceConfig) (b : Bool) : InferenceConfig :=
  { c with fixedTopLevels := b }

/-- A depth chosen by hand is at least 1. -/
def withMaxDepth (c : InferenceConfig) (depth : Nat) : InferenceConfig :=
  { c with maxDepth := max depth 1 }

/-! ## JSON form -/

def toJson (c : InferenceConfig) : Json :=
  .object [("inferEnums", .bool c.inferEnums), ("inferDates", .bool c.inferDates),
    ("fixedTopLevels", .bool c.fixedTopLevels), ("maxDepth", .int c.maxDepth)]

open Decoder

/-- Settings in the making: what each member has given so far. -/
structure Draft where
  inferEnums : Option Bool
  inferDates : Option Bool
  fixedTopLevels : Option Bool
  maxDepth : Option Nat

def shape : RecordShape Draft InferenceConfig where
  wanted := "struct InferenceConfig"
  start := ⟨none, none, none, none⟩
  fields :=
    [⟨"inferEnums", (·.inferEnums.isSome),
        Decoder.bool.map fun b d => { d with inferEnums := some b }, true⟩,
     ⟨"inferDates", (·.inferDates.isSome),
        Decoder.bool.map fun b d => { d with inferDates := some b }, true⟩,
     ⟨"fixedTopLevels", (·.fixedTopLevels.isSome),
        Decoder.bool.map fun b d => { d with fixedTopLevels := some b }, true⟩,
     ⟨"maxDepth", (·.maxDepth.isSome),
        Decoder.index.map fun n d => { d with maxDepth := some n }, true⟩]
  finish d := .ok
    ⟨d.inferEnums.getD default.inferEnums, d.inferDates.getD default.inferDates,
      d.fixedTopLevels.getD default.fixedTopLevels, d.maxDepth.getD default.maxDepth⟩
  surplus _ := "fewer elements in array"

def decoder : Decoder InferenceConfig := shape.decoder

end InferenceConfig

end JsonTypes
