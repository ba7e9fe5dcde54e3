import PresenceLogger.Library.Shell

/-!
# Scripts for a child

The texts that the wizard has a shell of the child run, and the ways it puts a command for
the child into one for the old hub.
-/

namespace PresenceLogger.Fleet

open Library Library.Shell

def keyOk : List Char := "KEY_OK".toList

/-- `DEFAULT_GW` -/
def defaultGw : List Char := "10.42.0.1".toList

/-- `DROPIN` -/
def dropin : String := "/etc/systemd/system/child-csv-to-mqtt.service.d/10-hub-gw.conf"

/-- Lines of a script. -/
def scriptText (lines : List String) : List Char :=
  ['\n'].intercalate (lines.map String.toList)

/-- `WIFI_INSTALL` -/
def wifiInstall : List Char := scriptText [
  "umask 077",
  "tmp=$(mktemp)",
  "cat > \"$tmp\" || exit 1",
  "sudo install -m 600 \"$tmp\" " ++
    "/etc/NetworkManager/system-connections/presence-hub-join.nmconnection",
  "rm -f \"$tmp\"",
  "sudo nmcli connection reload",
  "sw=$(mktemp)",
  "cat > \"$sw\" <<'SWITCH'",
  "prev=$(nmcli -t -f NAME,TYPE connection show --active 2>/dev/null | while IFS=: read -r n t; do",
  "  [ \"$t\" = \"802-11-wireless\" ] || [ \"$t\" = \"wifi\" ] || continue",
  "  [ \"$n\" = \"presence-hub-join\" ] && continue",
  "  echo \"$n\"; break",
  "done)",
  "if nmcli -w 15 connection up presence-hub-join; then",
  "  nmcli -t -f NAME,TYPE connection show 2>/dev/null | while IFS=: read -r n t; do",
  "    [ \"$t\" = \"802-11-wireless\" ] || [ \"$t\" = \"wifi\" ] || continue",
  "    [ \"$n\" = \"presence-hub-join\" ] && continue",
  "    nmcli connection modify \"$n\" connection.autoconnect no 2>/dev/null || true",
  "  done",
  "  echo WIFI_OK",
  "else",
  "  nmcli connection modify presence-hub-join connection.autoconnect no 2>/dev/null || true",
  "  [ -z \"$prev\" ] || nmcli -w 15 connection up \"$prev\"",
  "  echo WIFI_FAILED",
  "fi",
  "rm -f \"$0\"",
  "SWITCH",
  "sudo systemd-run --unit=presence-hub-join-switch --collect bash \"$sw\""]

/-- `dropin_step` -/
def dropinStep (gw : List Char) : String :=
  if gw = defaultGw then "sudo rm -f " ++ dropin
  else
    "dtmp=$(mktemp) && printf '[Service]\\nEnvironment=MQTT_HOST=%s\\n' " ++ .ofList (quote gw) ++
      " > \"$dtmp\" && sudo install -D -m 644 \"$dtmp\" " ++ dropin ++ " && rm -f \"$dtmp\""

/-- `align_remote_script`, of an address. -/
def alignRemoteScript (gw : List Char) : List Char := scriptText [
  "set -u",
  "f=\"$HOME/send_target_config.json\"",
  "python3 - \"$f\" " ++ .ofList (quote gw) ++ " <<'PY'",
  "import json, os, sys, tempfile",
  "p, gw = sys.argv[1], sys.argv[2]",
  "try:",
  "    st = os.stat(p)",
  "except FileNotFoundError:",
  "    cfg, mode, uid, gid = \x7b\x7d, 0o644, os.getuid(), os.getgid()",
  "else:",
  "    try:",
  "        with open(p, encoding=\"utf-8\") as fh:",
  "            cfg = json.load(fh)",
  "    except ValueError:",
  "        sys.exit(3)",
  "    if not isinstance(cfg, dict):",
  "        sys.exit(3)",
  "    mode, uid, gid = st.st_mode & 0o777, st.st_uid, st.st_gid",
  "cfg[\"host\"] = gw",
  "fd, tmp = tempfile.mkstemp(dir=os.path.dirname(p))",
  "try:",
  "    with os.fdopen(fd, \"w\", encoding=\"utf-8\") as fh:",
  "        json.dump(cfg, fh, ensure_ascii=False, indent=2)",
  "        fh.write(\"\\n\")",
  "    os.chmod(tmp, mode)",
  "    os.chown(tmp, uid, gid)",
  "    os.replace(tmp, p)",
  "except BaseException:",
  "    if os.path.exists(tmp):",
  "        os.unlink(tmp)",
  "    raise",
  "PY",
  "rc=$?",
  "if [ \"$rc\" -ne 0 ]; then",
  "  echo \"ALIGN_ERROR=send_target_config.json を書き換えられません(壊れているか読めません)\"",
  "  exit 3",
  "fi",
  dropinStep gw ++ " || \x7b echo \"ALIGN_ERROR=drop-in を更新できません\"; exit 4; \x7d",
  "pid_before=$(systemctl show -p MainPID --value child-csv-to-mqtt 2>/dev/null || true)",
  "echo \"PID_BEFORE=$pid_before\"",
  "sudo systemctl daemon-reload || \x7b",
  "  echo \"ALIGN_ERROR=systemctl daemon-reload に失敗しました\"; exit 5",
  "\x7d",
  "sudo systemctl restart child-csv-to-mqtt || \x7b",
  "  echo \"ALIGN_ERROR=systemctl restart child-csv-to-mqtt に失敗しました\"; exit 6",
  "\x7d",
  "pid_now=0",
  "proc_env=unreadable",
  "proc_host=\"\"",
  "etmp=$(mktemp)",
  "i=0",
  "while [ \"$i\" -lt 10 ]; do",
  "  i=$((i + 1))",
  "  pid_now=$(systemctl show -p MainPID --value child-csv-to-mqtt 2>/dev/null || true)",
  "  case \"$pid_now\" in ''|*[!0-9]*) pid_now=0 ;; esac",
  "  if [ \"$pid_now\" -ne 0 ] && [ \"$pid_now\" != \"$pid_before\" ]; then",
  "    if sudo cat /proc/\"$pid_now\"/environ > \"$etmp\" 2>/dev/null && [ -s \"$etmp\" ]; then",
  "      proc_env=ok",
  "      proc_host=$(tr '\\0' '\\n' < \"$etmp\" | grep '^MQTT_HOST=' | tail -n 1 | cut -d= -f2-)",
  "      break",
  "    fi",
  "  fi",
  "  sleep 1",
  "done",
  "rm -f \"$etmp\"",
  "echo \"PID_NOW=$pid_now\"",
  "echo \"PROC_ENV=$proc_env\"",
  "echo \"PROC_MQTT_HOST=$proc_host\"",
  "echo \"HOST_NOW=$(python3 -c 'import json,sys",
  "try:",
  "    print(json.load(open(sys.argv[1], " ++
    "encoding='\"'\"'utf-8'\"'\"')).get('\"'\"'host'\"'\"', '\"'\"''\"'\"'))",
  "except Exception:",
  "    print('\"'\"''\"'\"')' \"$f\")\"",
  "echo \"ENV_NOW=$(systemctl show -p Environment child-csv-to-mqtt 2>/dev/null | sed " ++
    "'s/^Environment=//')\"",
  "echo \"ACTIVE_NOW=$(systemctl is-active child-csv-to-mqtt 2>/dev/null || true)\"",
  "if sudo test -f /etc/NetworkManager/system-connections/presence-hub-join.nmconnection; then",
  "  if sudo grep -qE '^(ssid|psk)=\".*\"$' " ++
    "/etc/NetworkManager/system-connections/presence-hub-join.nmconnection; then",
  "    echo JOIN_PROFILE=quoted",
  "  else",
  "    echo JOIN_PROFILE=ok",
  "  fi",
  "else",
  "  echo JOIN_PROFILE=absent",
  "fi",
  ""]

/-! ## Commands -/

/-- `mac_inner` -/
def macInner : List Char :=
  ("cat /sys/class/net/wlan0/address 2>/dev/null || " ++
    "cat /sys/class/net/wlan1/address 2>/dev/null").toList

/-- `key_inner` -/
def keyInner (pubkey : List Char) : List Char :=
  let q := quote pubkey
  "umask 077; mkdir -p ~/.ssh; touch ~/.ssh/authorized_keys; ".toList ++
    "grep -qxF ".toList ++ q ++ " ~/.ssh/authorized_keys || ".toList ++
    "printf '%s\\n' ".toList ++ q ++ " >> ~/.ssh/authorized_keys; ".toList ++
    "grep -qxF ".toList ++ q ++ " ~/.ssh/authorized_keys && echo ".toList ++ keyOk

/-- The words before the destination in `_nested_ssh`. -/
def nestedOptions : List (List Char) := [
  "ssh".toList,
  "-o".toList, "ConnectTimeout=8".toList,
  "-o".toList, "BatchMode=yes".toList,
  "-o".toList, "StrictHostKeyChecking=accept-new".toList]

/-- `_nested_ssh` -/
def nestedSsh (entry inner : List Char) : List Char :=
  "ssh -o ConnectTimeout=8 -o BatchMode=yes -o StrictHostKeyChecking=accept-new ".toList ++
    "pi@".toList ++ quote entry ++ ' ' :: quote inner

theorem words_destination (entry inner : List Char) :
    Shell.words ("pi@".toList ++ (quote entry ++ ' ' :: quote inner)) =
      some ["pi@".toList ++ entry, inner] := by
  rw [Shell.words, readFrom_begin (by decide +kernel) (by decide), readFrom_quote, readFrom_space,
    words_quote, Option.map_some]
  rfl

/-- What follows the options tells commands apart. -/
theorem append_destination_inj {options entry inner other remote : List Char}
    (same : options ++ "pi@".toList ++ quote entry ++ ' ' :: quote inner =
      options ++ "pi@".toList ++ quote other ++ ' ' :: quote remote) :
    entry = other ∧ inner = remote := by
  rw [List.append_assoc, List.append_assoc, List.append_assoc, List.append_assoc,
    List.append_right_inj] at same
  have read := congrArg Shell.words same
  rw [words_destination, words_destination, Option.some.injEq, List.cons.injEq,
    List.append_right_inj, List.cons.injEq] at read
  exact ⟨read.1, read.2.1⟩

/-- Commands for different children, or different commands, are different. -/
theorem nestedSsh_inj {entry inner other remote : List Char}
    (same : nestedSsh entry inner = nestedSsh other remote) : entry = other ∧ inner = remote :=
  append_destination_inj same

/-- The old hub's shell runs one `ssh` with the child's name and the command as they are. -/
theorem words_nestedSsh (entry inner : List Char) :
    Shell.words (nestedSsh entry inner) =
      some (nestedOptions ++ ["pi@".toList ++ entry, inner]) := by
  have options :
      "ssh -o ConnectTimeout=8 -o BatchMode=yes -o StrictHostKeyChecking=accept-new ".toList =
        nestedOptions.flatMap (· ++ [' ']) := by
    decide +kernel
  have plain : ∀ word ∈ nestedOptions, word ≠ [] ∧ ∀ char ∈ word, isPlain char = true := by
    decide +kernel
  unfold nestedSsh
  rw [options, List.append_assoc, List.append_assoc, words_append plain,
    words_destination, Option.map_some]

end PresenceLogger.Fleet
