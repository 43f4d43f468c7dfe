/-!
# Settings

The vocabulary and the spellings the audit works with: which types are native, which property
names count as enumerations, and how an alias is declared.
-/

namespace BindingAudit

/-- The settings of the audit. -/
structure Settings where
  /-- Types whose names start like this are native; the empty text stands for none. -/
  nativePrefix : String := "Q"
  /-- Further native types. -/
  nativeTypes : List String := [
    "QObject", "QQuickItem", "QAbstractListModel", "QSortFilterProxyModel", "QTimer", "QSettings",
    "QFileSystemWatcher", "QNetworkAccessManager"]
  /-- A property whose name contains one of these, in any case, counts as an enumeration. -/
  exemptTerms : List String := ["State", "Mode", "Type", "Policy"]
  /-- How the name of an alias starts. -/
  aliasPrefix : String := "als"
  /-- The keyword that declares an alias. -/
  aliasKeyword : String := "property alias"
  /-- The indentation of a declaration. -/
  aliasIndent : String := "    "
deriving DecidableEq, Repr, Inhabited

/-- Whether a type is native: by the start of its name or because it is listed. -/
def Settings.isNativeType (s : Settings) (typeName : String) : Bool :=
  (s.nativePrefix != "" && s.nativePrefix.toList.isPrefixOf typeName.toList) ||
    s.nativeTypes.contains typeName

end BindingAudit
