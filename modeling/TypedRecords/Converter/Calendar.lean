import TypedRecords.Calendar.Timestamp
import TypedRecords.Converter.Basic

namespace TypedRecords

def timestampOf (z : Zone) (dt : DateTime) : Except ConversionError Timestamp :=
  match Timestamp.ofLocal? z dt with
  | some t => .ok t
  | none => .error (.temporal (dt.textWith " " ++ " does not exist in the local timezone"))

def Date.conversion (z : Zone) : Conversion Date Timestamp :=
  { Conversion.ofFunctions
      (fun t : Timestamp => .ok t.localTime.date)
      (fun d : Date => timestampOf z (DateTime.of d .midnight)) with
    temporal := some .date }

def DateTime.conversion (z : Zone) : Conversion DateTime Timestamp :=
  { Conversion.ofFunctions
      (fun t : Timestamp => .ok t.localTime)
      (fun dt : DateTime => timestampOf z dt) with
    temporal := some .dateTime }

def TimeOfDay.conversion (z : Zone) : Conversion TimeOfDay Timestamp :=
  { Conversion.ofFunctions
      (fun t : Timestamp => .ok t.localTime.time)
      (fun t : TimeOfDay => timestampOf z (DateTime.of ⟨0⟩ t)) with
    temporal := some .time }

end TypedRecords
