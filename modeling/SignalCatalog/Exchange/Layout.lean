/-!
# The exchange workbook

Other tools read and write the same workbook, so the names of its sheets and the headers of its
columns are fixed. One sheet holds the version, one the selections and the cores, and one a row for
each signal, with a column for each core that can be a destination.
-/

namespace SignalCatalog.Exchange

def versionSheet : String := "Version"

def signalSheet : String := "LookUpTable"

namespace VersionColumn

def version : String := "Version"

def date : String := "Date"

def editor : String := "Last Modified By"

def editorAlias : String := "Editor"

def description : String := "Description"

/-- The accepted headers of the description, the first one first. -/
def descriptionAliases : List String :=
  [description, "description", "DESCRIPTION", "Desc", "DESC"]

def all : List String := [version, date, editor, description]

end VersionColumn

namespace PlatformColumn

def socType : String := "SOC Name"

def buildType : String := "TypeOfBin"

/-- The column in which the table of cores starts. -/
def coreTable : Nat := 4

def soc : String := "SOC"

def core : String := "CORE"

def role : String := "Master/Slave"

def isQnx : String := "Is Qnx Core ?"

def isAutosar : String := "Is Autosar Compliant ?"

def isSim : String := "Is Sim Core ?"

def os : String := "OS"

def socFamily : String := "SOC Family"

def description : String := "Description"

/-- The columns of the table of cores. -/
def cores : List String :=
  [soc, core, role, isQnx, isAutosar, isSim, os, socFamily, description]

end PlatformColumn

namespace SignalColumn

/-- The column of the signal's name. -/
def name : String := "Data_Type"

def portName : String := "Variable_Port_Name"

def notifiers : String := "Notifiers"

def source : String := "Source"

def getObjRef : String := "GetObjRef"

def dataType : String := "DataType"

def description : String := "description"

/-- Every column that is no destination, in order. -/
def fixed : List String :=
  [name, portName, "Memory Region", "Buffer count_IPC", "Type", "InitValue", notifiers, source,
    "Impl_Approach", getObjRef, "SM_Buff_Count", "Timeout", "Periodicity", "ASIL", "Checksum",
    dataType, description]

end SignalColumn

end SignalCatalog.Exchange
