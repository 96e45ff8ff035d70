import UyuniAgent.Salt.Commands

/-!
# The command lines without validated arguments

The scripts and queries of `apache_inspection.py` and
`postgres_inspection.py`, and the format strings of the tools that take no
argument, or only a number of lines.
-/

namespace UyuniAgent.Salt

open Shell

/-! ## Scripts and queries -/

/-- The script of `build_apache_overload_command`. -/
def apacheOverloadScript : String :=
  "\n".intercalate [
    "set -u",
    "",
    "echo '=== APACHE STATUS AUTO ==='",
    "curl --fail --silent --show-error --max-time 5 \\",
    "    'http://127.0.0.1/server-status?auto' 2>&1 |",
    "    sed -n '1,100p'",
    "",
    "echo '=== METRIC SEMANTICS ==='",
    "echo 'Prometheus apache request rate is a recent 5-minute counter " ++
      "rate.'",
    "echo 'mod_status ReqPerSec and DurationPerReq are lifetime averages " ++
      "since RestartTime.'",
    "echo 'A low lifetime ReqPerSec cannot disprove a recent burst.'",
    "echo 'Completed bursts may leave no currently established client " ++
      "connections.'",
    "",
    "echo '=== RECENT ACCESS WINDOW AGGREGATE (QUERY STRINGS REMOVED) ==='",
    "python3 - <<'PYTHON'",
    "from collections import Counter",
    "from datetime import datetime, timedelta, timezone",
    "from pathlib import Path",
    "import re",
    "",
    "cutoff = datetime.now(timezone.utc) - timedelta(minutes=10)",
    "pattern = re.compile(",
    "    rb'^(\\S+) \\S+ \\S+ \\[([^\\]]+)\\] \"(\\S+) ([^ ]+) [^\"]*\" '",
    "    rb'(\\d\x7b3\x7d) '",
    ")",
    "counts = Counter()",
    "parsed = 0",
    "files = sorted(",
    "    Path(\"/var/log/apache2\").glob(\"*access*.log\"),",
    "    key=lambda path: path.stat().st_mtime,",
    "    reverse=True,",
    ")[:10]",
    "for path in files:",
    "    size = path.stat().st_size",
    "    read_size = min(size, 8 * 1024 * 1024)",
    "    with path.open(\"rb\") as stream:",
    "        if size > read_size:",
    "            stream.seek(-read_size, 2)",
    "            stream.readline()",
    "        data = stream.read()",
    "    recent_in_tail = 0",
    "    for line in data.splitlines():",
    "        match = pattern.match(line)",
    "        if not match:",
    "            continue",
    "        try:",
    "            timestamp = datetime.strptime(",
    "                match.group(2).decode(\"ascii\"),",
    "                \"%d/%b/%Y:%H:%M:%S %z\",",
    "            )",
    "        except (UnicodeDecodeError, ValueError):",
    "            continue",
    "        if timestamp < cutoff:",
    "            continue",
    "        client = match.group(1).decode(\"utf-8\", \"replace\")",
    "        method = match.group(3).decode(\"utf-8\", \"replace\")",
    "        path_only = (",
    "            match.group(4).decode(\"utf-8\", " ++
      "\"replace\").split(\"?\", 1)[0]",
    "        )",
    "        status = match.group(5).decode(\"ascii\")",
    "        counts[(client, method, path_only, status)] += 1",
    "        parsed += 1",
    "        recent_in_tail += 1",
    "    print(",
    "        f\"file=\x7bpath\x7d size_bytes=\x7bsize\x7d " ++
      "bytes_read=\x7blen(data)\x7d \"",
    "        f\"recent_records_in_tail=\x7brecent_in_tail\x7d \"",
    "        f\"tail_truncated=\x7bstr(size > read_size).lower()\x7d\"",
    "    )",
    "print(f\"window_seconds=600 parsed_recent_records=\x7bparsed\x7d\")",
    "for (client, method, path, status), count in counts.most_common(25):",
    "    print(",
    "        f\"count=\x7bcount\x7d client=\x7bclient\x7d " ++
      "method=\x7bmethod\x7d \"",
    "        f\"path=\x7bpath\x7d status=\x7bstatus\x7d\"",
    "    )",
    "PYTHON",
    "",
    "echo '=== APACHE/BACKEND ESTABLISHED TCP CONNECTIONS ==='",
    "ss -Htnp state established 2>/dev/null |",
    "    grep -E 'apache2|httpd|python3|psql|postgres|php|gunicorn|:80 " ++
      "|:443 ' |",
    "    head -n 300 || true",
    "",
    "echo '=== APACHE/BACKEND LISTENERS ==='",
    "ss -Hltnp 2>/dev/null |",
    "    grep -E 'apache2|httpd|python3|php|gunicorn|:80 |:443 ' |",
    "    head -n 120 || true",
    "",
    "echo '=== APACHE AND LIKELY BACKEND PROCESSES ==='",
    "ps -eo pid,ppid,comm,%cpu,%mem,rss,etimes --sort=-rss |",
    "    awk 'NR == 1 || $3 ~ /^(apache2|httpd|python3|php|php-fpm|curl|" ++
      "ab)$/ \x7b",
    "        print",
    "    \x7d' |",
    "    head -n 80",
    "",
    "echo '=== PROCESS SYSTEMD OWNERSHIP ==='",
    "for pid in $(pgrep -x apache2; pgrep -x httpd; pgrep -x python3; \\",
    "    pgrep -x php-fpm; pgrep -x curl; pgrep -x ab) 2>/dev/null; do",
    "    unit=$(",
    "        sed -nE \\",
    "            's#^[^:]*:[^:]*:.*/([^/]+\\.(service|scope)" ++
      ")(/.*)?$#\\1#p' \\",
    "            \"/proc/$\x7bpid\x7d/cgroup\" 2>/dev/null |",
    "            head -n 1",
    "    )",
    "    printf 'pid=%s comm=' \"$\x7bpid\x7d\"",
    "    cat \"/proc/$\x7bpid\x7d/comm\" 2>/dev/null || printf 'unknown\\n'",
    "    printf ' unit=%s\\n' \"$\x7bunit:-none\x7d\"",
    "done",
    "",
    "echo '=== APACHE CONFIGURATION SUMMARY ==='",
    "apachectl -t 2>&1",
    "apachectl -M 2>&1 |",
    "    grep -E 'mpm_|status_module|proxy|cgi|php' || true",
    "grep -RhsE \\",
    "    '^[[:space:]]*(Listen|ProxyPass|ProxyPassReverse|" ++
      "ScriptAlias|SetHandler|MaxRequestWorkers|ServerLimit)' \\",
    "    /etc/apache2/apache2.conf /etc/apache2/conf-enabled \\",
    "    /etc/apache2/mods-enabled /etc/apache2/sites-enabled 2>/dev/null |",
    "    sed -E 's#(https?://)[^/@[:space:]]+@#\\1REDACTED@#g' |",
    "    head -n 120",
    "",
    "echo '=== RECENT APACHE ERRORS ==='",
    "find /var/log/apache2 -maxdepth 1 -type f -name '*error*.log' \\",
    "    -mmin -10 -print0 2>/dev/null |",
    "    xargs -0 -r tail -q -n 80 2>/dev/null |",
    "    tail -n 120"]

/-- `_BLOCKING_ACTIVITY_SQL`. -/
def blockingActivitySql : String :=
  "\n".intercalate [
    "WITH lock_pairs AS (",
    "    SELECT",
    "        waiting.pid AS blocked_pid,",
    "        COALESCE(waiting.datname, 'unknown') AS database,",
    "        COALESCE(waiting.usename, 'unknown') AS blocked_user,",
    "        COALESCE(waiting.application_name, '') AS blocked_application,",
    "        COALESCE(waiting.client_addr::text, 'local') AS " ++
      "blocked_client,",
    "        waiting.state AS blocked_state,",
    "        waiting.wait_event_type,",
    "        waiting.wait_event,",
    "        GREATEST(",
    "            0,",
    "            FLOOR(EXTRACT(EPOCH FROM clock_timestamp() - " ++
      "waiting.query_start))",
    "        )::bigint AS blocked_seconds,",
    "        COALESCE(waiting.query_id::text, 'unavailable') AS " ++
      "blocked_query_id,",
    "        LEFT(",
    "            UPPER(split_part(ltrim(COALESCE(waiting.query, '')), ' ', " ++
      "1)),",
    "            32",
    "        ) AS blocked_command,",
    "        blocker.pid AS blocker_pid,",
    "        COALESCE(blocker.usename, 'unknown') AS blocker_user,",
    "        COALESCE(blocker.application_name, '') AS blocker_application,",
    "        COALESCE(blocker.client_addr::text, 'local') AS " ++
      "blocker_client,",
    "        blocker.state AS blocker_state,",
    "        blocker.wait_event_type AS blocker_wait_event_type,",
    "        GREATEST(",
    "            0,",
    "            FLOOR(",
    "                EXTRACT(",
    "                    EPOCH FROM clock_timestamp() -",
    "                    COALESCE(blocker.xact_start, blocker.state_change)",
    "                )",
    "            )",
    "        )::bigint AS blocker_transaction_seconds,",
    "        COALESCE(blocker.query_id::text, 'unavailable') AS " ++
      "blocker_query_id,",
    "        LEFT(",
    "            UPPER(split_part(ltrim(COALESCE(blocker.query, '')), ' ', " ++
      "1)),",
    "            32",
    "        ) AS blocker_command",
    "    FROM pg_stat_activity AS waiting",
    "    CROSS JOIN LATERAL",
    "        unnest(pg_blocking_pids(waiting.pid)) AS " ++
      "blocked_by(blocker_pid)",
    "    JOIN pg_stat_activity AS blocker",
    "        ON blocker.pid = blocked_by.blocker_pid",
    "    WHERE waiting.wait_event_type = 'Lock'",
    "),",
    "bounded_pairs AS (",
    "    SELECT *",
    "    FROM lock_pairs",
    "    ORDER BY blocked_seconds DESC, blocked_pid, blocker_pid",
    "    LIMIT 100",
    ")",
    "SELECT COALESCE(",
    "    json_agg(bounded_pairs ORDER BY blocked_seconds DESC, " ++
      "blocked_pid),",
    "    '[]'::json",
    ")::text",
    "FROM bounded_pairs"]

/-- `_HEALTH_SQL`. -/
def healthSql : String :=
  "\n".intercalate [
    "SELECT json_build_object(",
    "    'available', true,",
    "    'server_version', current_setting('server_version'),",
    "    'database', current_database(),",
    "    'in_recovery', pg_is_in_recovery(),",
    "    'postmaster_uptime_seconds',",
    "        FLOOR(EXTRACT(EPOCH FROM clock_timestamp() - " ++
      "pg_postmaster_start_time()))::bigint",
    ")::text"]

/-- `_CONNECTION_ACTIVITY_SQL`. -/
def connectionActivitySql : String :=
  "\n".intercalate [
    "WITH settings AS (",
    "    SELECT",
    "        current_setting('max_connections')::integer AS " ++
      "max_connections,",
    "        current_setting('superuser_reserved_connections')::integer",
    "            AS superuser_reserved_connections,",
    "        COALESCE(",
    "            NULLIF(current_setting('reserved_connections', true), ''),",
    "            '0'",
    "        )::integer AS reserved_connections",
    "),",
    "client_activity AS (",
    "    SELECT",
    "        pid,",
    "        COALESCE(datname, 'unknown') AS database,",
    "        COALESCE(usename, 'unknown') AS username,",
    "        COALESCE(NULLIF(application_name, ''), 'unspecified') AS " ++
      "application,",
    "        COALESCE(state, 'unknown') AS state,",
    "        xact_start,",
    "        state_change",
    "    FROM pg_stat_activity",
    "    WHERE backend_type = 'client backend'",
    "),",
    "grouped AS (",
    "    SELECT",
    "        database,",
    "        username,",
    "        application,",
    "        state,",
    "        count(*)::integer AS connection_count,",
    "        CASE",
    "            WHEN min(xact_start) IS NULL THEN 0",
    "            ELSE GREATEST(",
    "                0,",
    "                FLOOR(",
    "                    EXTRACT(",
    "                        EPOCH FROM clock_timestamp() - min(xact_start)",
    "                    )",
    "                )",
    "            )::bigint",
    "        END AS oldest_transaction_seconds,",
    "        GREATEST(",
    "            0,",
    "            FLOOR(",
    "                EXTRACT(",
    "                    EPOCH FROM clock_timestamp() - min(state_change)",
    "                )",
    "            )",
    "        )::bigint AS longest_state_seconds",
    "    FROM client_activity",
    "    GROUP BY database, username, application, state",
    "),",
    "totals AS (",
    "    SELECT",
    "        count(*)::integer AS current_connections,",
    "        count(*) FILTER (WHERE state = 'active')::integer",
    "            AS active_connections,",
    "        count(*) FILTER (WHERE state = 'idle')::integer",
    "            AS idle_connections,",
    "        count(*) FILTER (WHERE state = 'idle in transaction')::integer",
    "            AS idle_in_transaction_connections,",
    "        COALESCE(",
    "            GREATEST(",
    "                0,",
    "                FLOOR(",
    "                    EXTRACT(",
    "                        EPOCH FROM clock_timestamp() -",
    "                        min(xact_start) FILTER (",
    "                            WHERE state = 'idle in transaction'",
    "                        )",
    "                    )",
    "                )",
    "            )::bigint,",
    "            0",
    "        ) AS oldest_idle_transaction_seconds",
    "    FROM client_activity",
    ")",
    "SELECT json_build_object(",
    "    'available', true,",
    "    'max_connections', settings.max_connections,",
    "    'superuser_reserved_connections',",
    "        settings.superuser_reserved_connections,",
    "    'reserved_connections', settings.reserved_connections,",
    "    'normal_connection_limit',",
    "        settings.max_connections -",
    "        settings.superuser_reserved_connections -",
    "        settings.reserved_connections,",
    "    'current_connections', totals.current_connections,",
    "    'utilization_percent',",
    "        ROUND(",
    "            (",
    "                100.0 * totals.current_connections /",
    "                NULLIF(settings.max_connections, 0)",
    "            )::numeric,",
    "            2",
    "        )::double precision,",
    "    'remaining_normal_slots',",
    "        GREATEST(",
    "            0,",
    "            settings.max_connections -",
    "            settings.superuser_reserved_connections -",
    "            settings.reserved_connections -",
    "            totals.current_connections",
    "        ),",
    "    'normal_capacity_exhausted',",
    "        totals.current_connections >= (",
    "            settings.max_connections -",
    "            settings.superuser_reserved_connections -",
    "            settings.reserved_connections",
    "        ),",
    "    'active_connections', totals.active_connections,",
    "    'idle_connections', totals.idle_connections,",
    "    'idle_in_transaction_connections',",
    "        totals.idle_in_transaction_connections,",
    "    'oldest_idle_transaction_seconds',",
    "        totals.oldest_idle_transaction_seconds,",
    "    'groups',",
    "        COALESCE(",
    "            (",
    "                SELECT json_agg(row_to_json(summary))",
    "                FROM (",
    "                    SELECT *",
    "                    FROM grouped",
    "                    ORDER BY",
    "                        connection_count DESC,",
    "                        oldest_transaction_seconds DESC,",
    "                        database,",
    "                        application,",
    "                        state",
    "                    LIMIT 100",
    "                ) AS summary",
    "            ),",
    "            '[]'::json",
    "        )",
    ")::text",
    "FROM settings",
    "CROSS JOIN totals"]

/-! ## Format strings -/

section FormatStrings

variable {α : Type}

/-- `build_memory_pressure_command`. -/
def memoryPressureText : List (Piece α) :=
  [.literal "printf '%s\\n' '=== FREE_BYTES ==='; ",
    .literal "LC_ALL=C free -b; ",
    .literal "printf '%s\\n' '=== VMSTAT_1S_3_SAMPLES ==='; ",
    .literal "LC_ALL=C vmstat -w 1 3; ",
    .literal "printf '%s\\n' '=== TOP_RSS_KIB ==='; ",
    .literal "LC_ALL=C ps -eo pid,ppid,user,comm,%cpu,%mem,rss,vsz,",
    .literal "etimes,unit ",
    .literal "--sort=-rss | head -n 16; ",
    .literal "printf '%s\\n' '=== MEMORY_PRESSURE_STALL ==='; ",
    .literal "cat /proc/pressure/memory 2>/dev/null || true; ",
    .literal "printf '%s\\n' '=== RECENT_OOM_EVENTS ==='; ",
    .literal "journalctl -k --since '-10 minutes' --no-pager -n 30 ",
    .literal "| grep -Ei 'out of memory|oom-kill|killed process' || true"]

/-- `build_cpu_pressure_command`. -/
def cpuPressureText : List (Piece α) :=
  [.literal "printf '%s\\n' '=== LOAD_AVERAGE ==='; ", .literal "uptime; ",
    .literal "printf '%s\\n' '=== LOGICAL_CPU_COUNT ==='; ", .literal "nproc; ",
    .literal "printf '%s\\n' '=== VMSTAT_1S_3_SAMPLES ==='; ",
    .literal "LC_ALL=C vmstat -w 1 3; ",
    .literal "printf '%s\\n' '=== TOP_CPU ==='; ",
    .literal "LC_ALL=C ps -eo pid,ppid,user,comm,%cpu,%mem,rss,etimes,unit ",
    .literal "--sort=-%cpu | head -n 16; ",
    .literal "printf '%s\\n' '=== CPU_PRESSURE_STALL ==='; ",
    .literal "cat /proc/pressure/cpu 2>/dev/null || true; ",
    .literal "printf '%s\\n' '=== RECENT_THERMAL_OR_SOFT_LOCKUP_EVENTS ==='; ",
    .literal "journalctl -k --since '-10 minutes' --no-pager -n 30 ",
    .literal "| grep -Ei 'thermal|throttl|soft lockup|watchdog' || true"]

def listeningPortsText : List (Piece α) := [.literal "ss -tlnp"]

/-- `build_apache_overload_command`. -/
def apacheOverloadText (script : α) : List (Piece α) :=
  [.literal "timeout 15s bash -c ", .quoted script]

def apacheStatusText : List (Piece α) :=
  [.literal "curl -s http://localhost/server-status?auto"]

def apacheErrorLogText (lines : α) : List (Piece α) :=
  [.literal "tail -n ", .raw lines, .literal " /var/log/apache2/error.log"]

def apacheAccessLogText (lines : α) : List (Piece α) :=
  [.literal "tail -n ", .raw lines, .literal " /var/log/apache2/access.log"]

def apacheConfigCheckText : List (Piece α) :=
  [.literal "apachectl -t 2>&1 && apachectl -V | grep -i mpm && ",
    .literal "grep -rh 'MaxRequestWorkers\\|ServerLimit\\|",
    .literal "MaxConnectionsPerChild' ",
    .literal "/etc/apache2/ 2>/dev/null || echo 'Using defaults'"]

def activeQueriesText : List (Piece α) :=
  [.literal "sudo -u postgres psql -c \"",
    .literal "SELECT pid, state, query_id, ",
    .literal "left(upper(split_part(ltrim(query), ' ', 1)), 32) AS command, ",
    .literal "age(clock_timestamp(), query_start) AS duration ",
    .literal "FROM pg_stat_activity ", .literal "WHERE state != 'idle' ",
    .literal "ORDER BY query_start", .literal "\""]

/-- `_read_only_psql_command`. -/
def readOnlyPsqlText (sql : α) : List (Piece α) :=
  [.literal "sudo -n -u postgres env PGOPTIONS=",
    .literal "'-c statement_timeout=5000 -c default_transaction_read_only=on'",
    .literal " ",
    .literal "psql --no-psqlrc --dbname=postgres --tuples-only --no-align ",
    .literal "--quiet --set=ON_ERROR_STOP=1 --command=", .quoted sql]

def postgresLogText (lines : α) : List (Piece α) :=
  [.literal "tail -n ", .raw lines,
    .literal " /var/log/postgresql/postgresql-*-main.log 2>/dev/null || ",
    .literal "tail -n ", .raw lines,
    .literal " /var/log/postgresql/*.log 2>/dev/null || ",
    .literal "echo 'PostgreSQL log not found at expected paths'"]

end FormatStrings

end UyuniAgent.Salt
