/-
  The numbers of record types and classes, and their names.

  * `RecordType` and `RecordClass` hold the numbers that the library uses;
  * `RecordType.mnemonic?` and `RecordClass.mnemonic?` name any number, as
    messages show it, if it can be written.
-/
import ResolverChain.Text.Numeral

namespace ResolverChain

namespace RecordType

/-- Addresses of the older family. -/
def a : Int := 1
/-- Pointers from reverse names. -/
def ptr : Int := 12
/-- Texts. -/
def txt : Int := 16
/-- Addresses of the newer family. -/
def aaaa : Int := 28
/-- In a query, records of all types. -/
def all : Int := 255

/-- The names of the known types. -/
def mnemonics : List (Int × String) :=
  [(1, "A"), (2, "NS"), (3, "MD"), (4, "MF"), (5, "CNAME"), (6, "SOA"), (7, "MB"), (8, "MG"),
    (9, "MR"), (10, "NULL"), (11, "WKS"), (12, "PTR"), (13, "HINFO"), (14, "MINFO"), (15, "MX"),
    (16, "TXT"), (17, "RP"), (18, "AFSDB"), (28, "AAAA"), (33, "SRV"), (35, "NAPTR"), (38, "A6"),
    (39, "DNAME"), (41, "OPT"), (44, "SSHFP"), (99, "SPF"), (249, "TKEY"), (250, "TSIG"),
    (251, "IXFR"), (252, "AXFR"), (253, "MAILB"), (254, "MAILA"), (255, "ALL_RECORDS")]

end RecordType

namespace RecordClass

/-- The internet. -/
def internet : Int := 1
/-- In a query, records of any class. -/
def any : Int := 255

/-- The names of the known classes. -/
def mnemonics : List (Int × String) :=
  [(1, "IN"), (2, "CS"), (3, "CH"), (4, "HS"), (255, "ANY")]

end RecordClass

/-- The name of a number, or the number itself if it has none. -/
def mnemonicOf? (names : List (Int × String)) (n : Int) : Option String :=
  (names.lookup n).or ((Text.Integer.text? n).map fun digits => "UNKNOWN (" ++ digits ++ ")")

/-- The name of a record type. -/
def RecordType.mnemonic? (type : Int) : Option String := mnemonicOf? RecordType.mnemonics type

/-- The name of a class. -/
def RecordClass.mnemonic? (cls : Int) : Option String := mnemonicOf? RecordClass.mnemonics cls

end ResolverChain
